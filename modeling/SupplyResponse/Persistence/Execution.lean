/-
Execution actions, their attempts, status events and drafts
(`SqlAlchemyExecutionRepository`).

* `getAction`, `listActions` — the projected actions, checked against their
  immutable records;
* `listAttempts`, `listStatusEvents` — the histories of an action;
* `insertActionIfAbsent`, `insertAttempt`, `updateAttempt`,
  `updateActionProjection`, `appendStatusEvent`, `fillDraftArtifact` — the
  writes, with the lemmas that say what they did.
-/
import SupplyResponse.Persistence.Outbox

namespace SupplyResponse

open Transact Transact.Prog
open Keyed (keys)

variable (env : Env)

/-! ### Actions -/

/-- `_immutable_action`. -/
def immutableAction (actionId : String) : Sql ExecutionAction := do
  let action ← getRow Store.actions (.action actionId)
    ⟨.recordNotFound, s!"execution action does not exist: {actionId}"⟩
  require (action.status = .planned)
    (integrityError "action columns conflict with canonical immutable JSON")
  pure action

/-- `get_action`. -/
def getAction (actionId : String) : Sql ExecutionAction := do
  let immutable ← immutableAction actionId
  let row ← getRow Store.actionProjections (.actionProjection actionId)
    (integrityError s!"action projection is missing: {actionId}")
  require (row.action.actionId = row.actionId ∧ row.action.withStatus .planned = immutable)
    (integrityError "action projection conflicts with its immutable Action")
  pure row.action

/-- `[read(item) for item in items]`. -/
def collect {α β : Type} (read : α → Sql β) : List α → Sql (List β)
  | [] => pure []
  | item :: rest => do
    let value ← read item
    let values ← collect read rest
    pure (value :: values)

/-- The position of a kind in `tuple(ExecutionActionKind)`. -/
def ExecutionActionKind.index (kind : ExecutionActionKind) : Nat := all.idxOf kind

/-- The actions of a Decision, as stored. -/
def actionsOf (s : Store) (decisionId : String) : List ExecutionAction :=
  s.actions.rows.filter fun a => a.decisionId = decisionId

/-- `list_actions`. -/
def listActions (decisionId : String) : Sql (List ExecutionAction) := do
  let actionIds ← select fun s => (actionsOf s decisionId).map ExecutionAction.actionId
  let actions ← collect getAction actionIds
  pure (actions.insertionSort fun a b => a.kind.index ≤ b.kind.index)

/-! ### Status events -/

/-- The stored events of an action, by sequence number. -/
def eventsOf (s : Store) (actionId : String) : List ExecutionStatusEvent :=
  (s.statusEvents.rows.filter fun e => e.actionId = actionId).insertionSort fun a b =>
    a.sequenceNumber ≤ b.sequenceNumber

/-- The events are numbered from one without gaps. -/
def Gapless (events : List ExecutionStatusEvent) : Prop :=
  events.map ExecutionStatusEvent.sequenceNumber = List.range' 1 events.length

instance : DecidablePred Gapless := fun _ => inferInstanceAs (Decidable (_ = _))

/-- `list_status_events`. -/
def listStatusEvents (actionId : String) : Sql (List ExecutionStatusEvent) := do
  let events ← select fun s => eventsOf s actionId
  require (Gapless events) (integrityError "Execution Status Event history has gaps")
  pure events

/-- The event continues the history. -/
def ExecutionStatusEvent.Continues (event : ExecutionStatusEvent) :
    Option ExecutionStatusEvent → Prop
  | none => event.fromStatus = none ∧ event.toStatus = .planned
  | some last => event.fromStatus = some last.toStatus ∧
      event.toStatus ∈ last.toStatus.allowedTransitions

instance (event : ExecutionStatusEvent) : DecidablePred event.Continues
  | none => inferInstanceAs (Decidable (_ ∧ _))
  | some _ => inferInstanceAs (Decidable (_ ∧ _))

/-- `append_status_event`. -/
def appendStatusEvent (event : ExecutionStatusEvent) : Sql Unit := do
  let action ← immutableAction event.actionId
  let existing ← listStatusEvents event.actionId
  require (event.decisionId = action.decisionId ∧ event.sequenceNumber = existing.length + 1)
    (integrityError "Execution Status Event sequence or lineage is inconsistent")
  require (existing = [] → event.Continues none)
    (integrityError "first Execution Status Event must establish planned state")
  require (∀ last ∈ existing.getLast?, event.Continues (some last))
    (integrityError "Execution Status Event violates the transition graph")
  insertInto Store.statusEvents (fun s t => { s with statusEvents := t }) event

/-! ### New actions -/

/-- The event that establishes a planned action. -/
def ExecutionStatusEvent.initial (eventUuid : String) (action : ExecutionAction) :
    ExecutionStatusEvent where
  executionEventId := "RL-EXECUTION-EVENT-" ++ eventUuid
  actionId := action.actionId
  decisionId := action.decisionId
  sequenceNumber := 1
  fromStatus := none
  toStatus := .planned
  attemptId := none
  errorCode := none
  occurredAt := action.createdAt

/-- The draft shell of an action that owns one. -/
def insertDraftShell (action : ExecutionAction) : Option String → Sql Unit
  | none => pure ()
  | some artifactId =>
    insertInto Store.drafts (fun s t => { s with drafts := t })
      (DraftArtifact.empty artifactId action.actionId action.decisionId action.createdAt)

/-- The inserts of `insert_action_if_absent`. -/
def insertAction (action : ExecutionAction) (eventUuid : String) : Sql Unit := do
  insertInto Store.actions (fun s t => { s with actions := t }) action
  insertInto Store.actionProjections (fun s t => { s with actionProjections := t })
    { actionId := action.actionId, action := action, currentAttempt := 0 }
  appendStatusEvent (.initial eventUuid action)
  insertDraftShell action action.draftArtifactId

/-- The answer for an action id that is taken. -/
def existingAction (action : ExecutionAction) : Sql Bool := do
  let stored ← immutableAction action.actionId
  require (stored = action)
    ⟨.immutableRecordConflict, s!"execution action ID conflicts: {action.actionId}"⟩
  pure false

/-- `insert_action_if_absent`. -/
def insertActionIfAbsent (action : ExecutionAction) (eventUuid : String) : Sql Bool := do
  require (action.status = .planned) ⟨.valueError, "new execution actions must be planned"⟩
  let decision ← getDecision env action.decisionId
  require (decision.kind = .approved ∧ action.caseId = decision.caseId)
    (integrityError "Execution Action must match an approved Decision")
  let existing ← select fun s => (s.actions.get? (.action action.actionId)).isSome
  if existing then existingAction action
  else do
    insertAction action eventUuid
    pure true

/-! ### Attempts -/

/-- The stored attempts of an action, by number. -/
def attemptsOf (s : Store) (actionId : String) : List ExecutionAttempt :=
  (s.attempts.rows.filter fun a => a.actionId = actionId).insertionSort fun a b =>
    a.attemptNumber ≤ b.attemptNumber

/-- `list_attempts`. -/
def listAttempts (actionId : String) : Sql (List ExecutionAttempt) :=
  select fun s => attemptsOf s actionId

/-- `get_attempt`. -/
def getAttempt (attemptId : String) : Sql ExecutionAttempt :=
  getRow Store.attempts (.attempt attemptId)
    ⟨.recordNotFound, s!"Execution Attempt does not exist: {attemptId}"⟩

/-- `insert_attempt`. -/
def insertAttempt (attempt : ExecutionAttempt) : Sql Unit := do
  let action ← getAction attempt.actionId
  let existing ← listAttempts attempt.actionId
  require (attempt.decisionId = action.decisionId ∧
      attempt.attemptNumber = existing.length + 1 ∧ attempt.status = .inProgress ∧
      attempt.completedAt = none)
    (integrityError "Execution Attempt is inconsistent")
  insertInto Store.attempts (fun s t => { s with attempts := t }) attempt
  let _ ← updateRow Store.actionProjections (fun s t => { s with actionProjections := t })
    (.actionProjection attempt.actionId) (fun _ => True)
    (fun row => { row with currentAttempt := attempt.attemptNumber }) (fun _ _ => rfl)
  pure ()

/-- The final states of an attempt. -/
def ExecutionStatus.IsFinal (status : ExecutionStatus) : Prop :=
  status = .completed ∨ status = .failed ∨ status = .cancelled

instance : DecidablePred ExecutionStatus.IsFinal :=
  fun _ => inferInstanceAs (Decidable (_ ∨ _))

/-- `update_attempt`: the previous attempt is read and checked; the `UPDATE`
itself is by primary key alone. -/
def updateAttempt (attempt : ExecutionAttempt) : Sql Unit := do
  let previous ← getAttempt attempt.attemptId
  require (previous.status = .inProgress ∧ attempt.actionId = previous.actionId ∧
      attempt.decisionId = previous.decisionId ∧
      attempt.attemptNumber = previous.attemptNumber ∧
      attempt.startedAt = previous.startedAt ∧ attempt.status.IsFinal ∧
      attempt.completedAt.isSome)
    (integrityError "Execution Attempt update would rewrite immutable attempt history")
  let _ ← updateRow Store.attempts (fun s t => { s with attempts := t })
    (.attempt attempt.attemptId) (fun _ => True)
    (fun row => { row with
      status := attempt.status
      completedAt := attempt.completedAt
      errorCode := attempt.errorCode })
    (fun _ _ => rfl)
  pure ()

/-- `update_action_projection`. -/
def updateActionProjection (action : ExecutionAction) : Sql Unit := do
  let immutable ← immutableAction action.actionId
  require (action.withStatus .planned = immutable)
    ⟨.immutableRecordConflict, "action projection cannot change immutable Action fields"⟩
  updateExisting Store.actionProjections (fun s t => { s with actionProjections := t })
    (.actionProjection action.actionId) (fun row => { row with action := action })
    (fun _ _ => rfl)
    ⟨.recordNotFound, s!"action projection does not exist: {action.actionId}"⟩

/-! ### Drafts -/

/-- The stored drafts of an action. -/
def draftsOf (s : Store) (actionId : String) : List DraftArtifact :=
  s.drafts.rows.filter fun d => d.actionId = actionId

/-- `get_draft_artifact`. -/
def getDraftArtifact (actionId : String) : Sql DraftArtifact := do
  let rows ← select fun s => draftsOf s actionId
  match rows with
  | [] => fail .recordNotFound s!"Draft Artifact does not exist for action: {actionId}"
  | [artifact] => pure artifact
  | _ :: _ :: _ => fail .multipleResultsFound "Multiple rows were found when one or none was required"

/-- A draft without its content. -/
def DraftArtifact.shell (artifact : DraftArtifact) : DraftArtifact :=
  { artifact with subject := none, body := none, valid := draftContent_none }

/-- The part of `fill_draft_artifact` for a draft that is still empty. -/
def fillEmptyDraft (previous artifact : DraftArtifact) : Sql Unit := do
  require (artifact.subject.isSome ∧ artifact.body.isSome)
    ⟨.valueError, "Draft Artifact content is required"⟩
  require (artifact.shell = previous)
    ⟨.immutableRecordConflict, "Draft Artifact fill cannot change immutable fields"⟩
  let _ ← updateRow Store.drafts (fun s t => { s with drafts := t })
    (.draft artifact.artifactId) (fun _ => True)
    (fun row => { row with
      subject := artifact.subject, body := artifact.body, valid := artifact.valid })
    (fun _ _ => rfl)
  pure ()

/-- `fill_draft_artifact`. -/
def fillDraftArtifact (artifact : DraftArtifact) : Sql Unit := do
  let previous ← getDraftArtifact artifact.actionId
  require (previous.artifactId = artifact.artifactId)
    ⟨.immutableRecordConflict, "Draft Artifact ID cannot be changed"⟩
  if previous.subject.isSome then
    require (previous = artifact)
      ⟨.immutableRecordConflict, "Draft Artifact content is insert-only"⟩
  else fillEmptyDraft previous artifact

/-! ### What the reads say -/

theorem readOnly_immutableAction (actionId : String) : (immutableAction actionId).ReadOnly :=
  (readOnly_getRow _ _ _).bind fun _ => (readOnly_require _ _).bind fun _ => readOnly_done _

theorem readOnly_getAction (actionId : String) : (getAction actionId).ReadOnly :=
  (readOnly_immutableAction actionId).bind fun _ => (readOnly_getRow _ _ _).bind fun _ =>
    (readOnly_require _ _).bind fun _ => readOnly_done _

theorem readOnly_collect {α β : Type} {read : α → Sql β} (h : ∀ a, (read a).ReadOnly) :
    ∀ items, (collect read items).ReadOnly
  | [] => readOnly_done _
  | item :: rest => (h item).bind fun _ => (readOnly_collect h rest).bind fun _ => readOnly_done _

theorem readOnly_listActions (decisionId : String) : (listActions decisionId).ReadOnly :=
  (readOnly_select _).bind fun _ => (readOnly_collect readOnly_getAction _).bind fun _ =>
    readOnly_done _

theorem readOnly_listStatusEvents (actionId : String) : (listStatusEvents actionId).ReadOnly :=
  (readOnly_select _).bind fun _ => (readOnly_require _ _).bind fun _ => readOnly_done _

theorem readOnly_listAttempts (actionId : String) : (listAttempts actionId).ReadOnly :=
  readOnly_select _

theorem readOnly_getAttempt (attemptId : String) : (getAttempt attemptId).ReadOnly :=
  readOnly_getRow _ _ _

theorem readOnly_getDraftArtifact (actionId : String) : (getDraftArtifact actionId).ReadOnly :=
  (readOnly_select _).bind fun rows => by
    cases rows with
    | nil => exact readOnly_fail _ _
    | cons d rest =>
      cases rest with
      | nil => exact readOnly_done _
      | cons d' rest => exact readOnly_fail _ _

theorem actionId_of_get? {s : Store} {id : String} {action : ExecutionAction}
    (h : s.actions.get? (.action id) = some action) : action.actionId = id := by
  have hk := (Table.get?_eq_some_iff.mp h).2
  simp only [keys_executionAction, List.mem_singleton, Key.action.injEq] at hk
  exact hk.symm

theorem actionId_of_projection {s : Store} {id : String} {row : ActionProjectionRow}
    (h : s.actionProjections.get? (.actionProjection id) = some row) : row.actionId = id := by
  have hk := (Table.get?_eq_some_iff.mp h).2
  simp only [keys_actionProjectionRow, List.mem_singleton, Key.actionProjection.injEq] at hk
  exact hk.symm

theorem returns_immutableAction {actionId : String} {s s' : Store} {a : ExecutionAction} :
    (immutableAction actionId).Returns s a s' ↔
      s.actions.get? (.action actionId) = some a ∧ a.status = .planned ∧ s' = s := by
  unfold immutableAction
  rw [returns_getRow_bind]
  constructor
  · rintro ⟨a', ha, h⟩
    obtain ⟨hs, h⟩ := returns_require_bind.mp h
    obtain ⟨rfl, rfl⟩ := returns_done.mp h
    exact ⟨ha, hs, rfl⟩
  · rintro ⟨ha, hs, rfl⟩
    exact ⟨a, ha, returns_require_bind.mpr ⟨hs, returns_done.mpr ⟨rfl, rfl⟩⟩⟩

theorem returns_getAction {actionId : String} {s s' : Store} {a : ExecutionAction}
    (h : (getAction actionId).Returns s a s') :
    s' = s ∧ ∃ immutable row, s.actions.get? (.action actionId) = some immutable ∧
      s.actionProjections.get? (.actionProjection actionId) = some row ∧ row.action = a ∧
      a.actionId = actionId ∧ a.withStatus .planned = immutable := by
  have hs := (readOnly_getAction actionId).eq h
  obtain ⟨immutable, him, h⟩ := (readOnly_immutableAction actionId).returns_bind.mp h
  rw [returns_getRow_bind] at h
  obtain ⟨row, hrow, h⟩ := h
  obtain ⟨⟨hid, him'⟩, h⟩ := returns_require_bind.mp h
  obtain ⟨rfl, -⟩ := returns_done.mp h
  exact ⟨hs, immutable, row, (returns_immutableAction.mp him).1, hrow, rfl,
    hid.trans (actionId_of_projection hrow), him'⟩

theorem returns_listStatusEvents {actionId : String} {s s' : Store}
    {l : List ExecutionStatusEvent} :
    (listStatusEvents actionId).Returns s l s' ↔
      l = eventsOf s actionId ∧ Gapless l ∧ s' = s := by
  unfold listStatusEvents
  rw [returns_select_bind, returns_require_bind, pure_eq_done, returns_done]
  constructor
  · rintro ⟨hg, rfl, rfl⟩
    exact ⟨rfl, hg, rfl⟩
  · rintro ⟨rfl, hg, rfl⟩
    exact ⟨hg, rfl, rfl⟩

/-- A collected list has the answer to each item, in order. -/
theorem returns_collect {α β : Type} {read : α → Sql β} (hr : ∀ a, (read a).ReadOnly)
    {items : List α} {values : List β} {s s' : Store}
    (h : (collect read items).Returns s values s') :
    List.Forall₂ (fun item value => (read item).Returns s value s) items values := by
  induction items generalizing values s' with
  | nil =>
    obtain ⟨rfl, -⟩ := returns_done.mp h
    exact .nil
  | cons item rest ih =>
    obtain ⟨value, hvalue, h⟩ := (hr item).returns_bind.mp h
    obtain ⟨values', hvalues, h⟩ := (readOnly_collect hr rest).returns_bind.mp h
    obtain ⟨rfl, -⟩ := returns_done.mp h
    exact .cons hvalue (ih hvalues)

/-- The listed actions are the projections of the stored ones. -/
theorem returns_listActions {decisionId : String} {s s' : Store} {actions : List ExecutionAction}
    (h : (listActions decisionId).Returns s actions s') :
    ∀ a ∈ actionsOf s decisionId, ∃ b ∈ actions, (getAction a.actionId).Returns s b s := by
  rw [listActions, returns_select_bind] at h
  obtain ⟨values, hvalues, h⟩ := (readOnly_collect readOnly_getAction _).returns_bind.mp h
  obtain ⟨rfl, -⟩ := returns_done.mp h
  have hall := returns_collect readOnly_getAction hvalues
  intro a ha
  obtain ⟨n, hn, rfl⟩ := List.mem_iff_getElem.mp ha
  have hlen := hall.length_eq
  rw [List.length_map] at hlen
  have hget := List.forall₂_iff_get.mp hall
  refine ⟨values[n], (List.mem_insertionSort _).mpr (List.getElem_mem (by omega)), ?_⟩
  have hn' := hget.2 n (by rwa [List.length_map]) (by omega)
  simpa using hn'

theorem draftsOf_of_returns {actionId : String} {s s' : Store} {d : DraftArtifact}
    (h : (getDraftArtifact actionId).Returns s d s') : draftsOf s actionId = [d] := by
  rw [getDraftArtifact, returns_select_bind] at h
  rcases hd : draftsOf s actionId with _ | ⟨d', _ | ⟨_, _⟩⟩ <;> rw [hd] at h
  · exact absurd h returns_fail
  · rw [(returns_done.mp h).1]
  · exact absurd h returns_fail

theorem returns_getDraftArtifact {actionId : String} {s s' : Store} {d : DraftArtifact}
    (h : (getDraftArtifact actionId).Returns s d s') :
    s' = s ∧ d ∈ s.drafts ∧ d.actionId = actionId := by
  have hs := (readOnly_getDraftArtifact actionId).eq h
  rw [getDraftArtifact, returns_select_bind] at h
  rcases hd : draftsOf s actionId with _ | ⟨d', _ | ⟨_, _⟩⟩ <;> rw [hd] at h
  · exact absurd h returns_fail
  · obtain ⟨rfl, -⟩ := returns_done.mp h
    have hmem : d ∈ draftsOf s actionId := by rw [hd]; exact List.mem_singleton_self d
    obtain ⟨hm, hid⟩ := List.mem_filter.mp hmem
    exact ⟨hs, hm, of_decide_eq_true hid⟩
  · exact absurd h returns_fail

/-! ### What the writes did -/

/-- The tables after an event was appended to the history of its action. -/
structure AppendsEvent (s : Store) (event : ExecutionStatusEvent) (s' : Store) : Prop where
  gapless : Gapless (eventsOf s event.actionId)
  sequence : event.sequenceNumber = (eventsOf s event.actionId).length + 1
  continues : event.Continues (eventsOf s event.actionId).getLast?
  free : s.statusEvents.Free event
  effect : s' = { s with statusEvents := s.statusEvents.add event }

theorem returns_appendStatusEvent {event : ExecutionStatusEvent} {s s' : Store} {u : Unit}
    (h : (appendStatusEvent event).Returns s u s') : AppendsEvent s event s' := by
  obtain ⟨action, -, h⟩ := (readOnly_immutableAction _).returns_bind.mp h
  obtain ⟨existing, hex, h⟩ := (readOnly_listStatusEvents _).returns_bind.mp h
  obtain ⟨rfl, hg, -⟩ := returns_listStatusEvents.mp hex
  obtain ⟨⟨-, hseq⟩, h⟩ := returns_require_bind.mp h
  obtain ⟨hfirst, h⟩ := returns_require_bind.mp h
  obtain ⟨hnext, h⟩ := returns_require_bind.mp h
  obtain ⟨hfree, rfl⟩ := returns_insertInto.mp h
  refine ⟨hg, hseq, ?_, hfree, rfl⟩
  rcases hl : (eventsOf s event.actionId).getLast? with _ | last
  · exact hfirst (List.getLast?_eq_none_iff.mp hl)
  · exact hnext last hl

/-- The tables after a new action was inserted. -/
structure InsertsAction (s : Store) (action : ExecutionAction) (eventUuid : String)
    (s' : Store) : Prop where
  free : s.actions.Free action
  effect : ∃ drafts,
    (∀ artifactId, action.draftArtifactId = some artifactId →
      s.drafts.Free (.empty artifactId action.actionId action.decisionId action.createdAt) ∧
        drafts = s.drafts.add
          (.empty artifactId action.actionId action.decisionId action.createdAt)) ∧
    (action.draftArtifactId = none → drafts = s.drafts) ∧
    s.actionProjections.Free ⟨action.actionId, action, 0⟩ ∧
    s.statusEvents.Free (.initial eventUuid action) ∧
    eventsOf s action.actionId = [] ∧
    s' = { s with
      actions := s.actions.add action
      actionProjections := s.actionProjections.add ⟨action.actionId, action, 0⟩
      statusEvents := s.statusEvents.add (.initial eventUuid action)
      drafts := drafts }

theorem returns_insertAction {action : ExecutionAction} {eventUuid : String} {s s' : Store}
    {u : Unit} (h : (insertAction action eventUuid).Returns s u s') :
    InsertsAction s action eventUuid s' := by
  obtain ⟨_, s₁, hact, h⟩ := returns_bind.mp h
  obtain ⟨hfree, rfl⟩ := returns_insertInto.mp hact
  obtain ⟨_, s₂, hproj, h⟩ := returns_bind.mp h
  obtain ⟨hpfree, rfl⟩ := returns_insertInto.mp hproj
  obtain ⟨_, s₃, hev, h⟩ := returns_bind.mp h
  obtain ⟨-, hseq, -, hefree, rfl⟩ := returns_appendStatusEvent hev
  have hempty : eventsOf s action.actionId = [] := by
    have : 1 = (eventsOf s action.actionId).length + 1 := hseq
    exact List.eq_nil_of_length_eq_zero (by omega)
  refine ⟨hfree, ?_⟩
  rcases hd : action.draftArtifactId with _ | artifactId <;> rw [hd] at h
  · obtain ⟨-, rfl⟩ := returns_done.mp h
    exact ⟨_, by simp, fun _ => rfl, hpfree, hefree, hempty, rfl⟩
  · rw [insertDraftShell] at h
    obtain ⟨hdfree, rfl⟩ := returns_insertInto.mp h
    refine ⟨_, ?_, by simp, hpfree, hefree, hempty, rfl⟩
    rintro id heq
    obtain rfl := Option.some.inj heq
    exact ⟨hdfree, rfl⟩

/-- An insert if absent either found the action or inserted it. -/
theorem returns_insertActionIfAbsent {action : ExecutionAction} {eventUuid : String}
    {s s' : Store} {b : Bool} (h : (insertActionIfAbsent env action eventUuid).Returns s b s') :
    (∃ d, s.decisions.get? (.decision action.decisionId) = some d ∧ d.kind = .approved ∧
        action.caseId = d.caseId) ∧ action.status = .planned ∧
      ((b = false ∧ s' = s ∧ s.actions.get? (.action action.actionId) = some action) ∨
        b = true ∧ InsertsAction s action eventUuid s') := by
  rw [insertActionIfAbsent, returns_require_bind] at h
  obtain ⟨hstatus, h⟩ := h
  obtain ⟨d, hd, h⟩ := (readOnly_getDecision env _ _).returns_bind.mp h
  obtain ⟨⟨hkind, hcase⟩, h⟩ := returns_require_bind.mp h
  refine ⟨⟨d, (returns_getDecision env hd).2, hkind, hcase⟩, hstatus, ?_⟩
  rw [returns_select_bind] at h
  obtain ⟨-, h⟩ | ⟨-, h⟩ := returns_ite.mp h
  · obtain ⟨stored, hst, h⟩ := (readOnly_immutableAction _).returns_bind.mp h
    obtain ⟨heq, h⟩ := returns_require_bind.mp h
    obtain ⟨rfl, rfl⟩ := returns_done.mp h
    exact .inl ⟨rfl, rfl, heq ▸ (returns_immutableAction.mp hst).1⟩
  · obtain ⟨_, s₁, hins, h⟩ := returns_bind.mp h
    obtain ⟨rfl, rfl⟩ := returns_done.mp h
    exact .inr ⟨rfl, returns_insertAction hins⟩

/-- The tables after the projection of an action was rewritten. -/
def Store.modifyActionProjection (s : Store) (actionId : String)
    (f : ActionProjectionRow → ActionProjectionRow)
    (hf : ∀ r, Key.actionProjection actionId ∈ keys r → keys (f r) = keys r) : Store :=
  { s with actionProjections := s.actionProjections.modify (.actionProjection actionId) f hf }

/-- An `UPDATE` by primary key whose count is ignored. -/
theorem returns_updateRow_true {ρ : Type} [Keyed Key ρ] {table : Store → Table Key ρ}
    {setTable : Store → Table Key ρ → Store} {k : Key} {f : ρ → ρ}
    {hf : ∀ r, k ∈ keys r → keys (f r) = keys r} {s s' : Store} {b : Bool}
    (h : (updateRow table setTable k (fun _ => True) f hf).Returns s b s') :
    (∃ r, (table s).get? k = some r ∧ s' = setTable s ((table s).modify k f hf)) ∨
      (table s).get? k = none ∧ s' = s := by
  rcases returns_updateRow.mp h with ⟨r, hr, -, -, rfl⟩ | ⟨hnone, -, rfl⟩
  · exact .inl ⟨r, hr, rfl⟩
  · refine .inr ⟨?_, rfl⟩
    rcases hr : (table s').get? k with _ | r
    · rfl
    · exact absurd trivial (hnone r hr)

theorem returns_insertAttempt {attempt : ExecutionAttempt} {s s' : Store} {u : Unit}
    (h : (insertAttempt attempt).Returns s u s') :
    attempt.attemptNumber = (attemptsOf s attempt.actionId).length + 1 ∧
      attempt.status = .inProgress ∧ s.attempts.Free attempt ∧
      s' = { s.modifyActionProjection attempt.actionId
          (fun row => { row with currentAttempt := attempt.attemptNumber }) (fun _ _ => rfl) with
        attempts := s.attempts.add attempt } := by
  obtain ⟨action, ha, h⟩ := (readOnly_getAction _).returns_bind.mp h
  obtain ⟨-, immutable, row, -, hrow, -⟩ := returns_getAction ha
  obtain ⟨existing, hex, h⟩ := (readOnly_listAttempts _).returns_bind.mp h
  obtain ⟨rfl, -⟩ := returns_select.mp hex
  obtain ⟨⟨-, hnumber, hstatus, -⟩, h⟩ := returns_require_bind.mp h
  obtain ⟨_, s₁, hins, h⟩ := returns_bind.mp h
  obtain ⟨hfree, rfl⟩ := returns_insertInto.mp hins
  obtain ⟨b, s₂, hup, h⟩ := returns_bind.mp h
  obtain ⟨-, rfl⟩ := returns_done.mp h
  refine ⟨hnumber, hstatus, hfree, ?_⟩
  rcases returns_updateRow_true hup with ⟨r, -, rfl⟩ | ⟨hnone, -⟩
  · rfl
  · cases hnone.symm.trans hrow

/-- The row of a finished attempt. -/
@[reducible] def ExecutionAttempt.finishedAs (attempt row : ExecutionAttempt) : ExecutionAttempt :=
  { row with
    status := attempt.status
    completedAt := attempt.completedAt
    errorCode := attempt.errorCode }

theorem returns_updateAttempt {attempt : ExecutionAttempt} {s s' : Store} {u : Unit}
    (h : (updateAttempt attempt).Returns s u s') :
    ∃ previous, s.attempts.get? (.attempt attempt.attemptId) = some previous ∧
      previous.status = .inProgress ∧ attempt.status.IsFinal ∧
      s' = { s with
        attempts := s.attempts.modify (.attempt attempt.attemptId) attempt.finishedAs
          (fun _ _ => rfl) } := by
  rw [updateAttempt, getAttempt, returns_getRow_bind] at h
  obtain ⟨previous, hprev, h⟩ := h
  obtain ⟨⟨hstatus, -, -, -, -, hfinal, -⟩, h⟩ := returns_require_bind.mp h
  obtain ⟨b, s₁, hup, h⟩ := returns_bind.mp h
  obtain ⟨-, rfl⟩ := returns_done.mp h
  refine ⟨previous, hprev, hstatus, hfinal, ?_⟩
  rcases returns_updateRow_true hup with ⟨r, -, rfl⟩ | ⟨hnone, -⟩
  · rfl
  · cases hnone.symm.trans hprev

theorem returns_updateActionProjection {action : ExecutionAction} {s s' : Store} {u : Unit}
    (h : (updateActionProjection action).Returns s u s') :
    s.actions.get? (.action action.actionId) = some (action.withStatus .planned) ∧
      s' = s.modifyActionProjection action.actionId (fun row => { row with action := action })
        (fun _ _ => rfl) := by
  obtain ⟨immutable, him, h⟩ := (readOnly_immutableAction _).returns_bind.mp h
  obtain ⟨heq, h⟩ := returns_require_bind.mp h
  obtain ⟨-, rfl⟩ := returns_updateExisting.mp h
  exact ⟨heq ▸ (returns_immutableAction.mp him).1, rfl⟩

/-- The row of a filled draft. -/
@[reducible] def DraftArtifact.filledAs (artifact row : DraftArtifact) : DraftArtifact :=
  { row with subject := artifact.subject, body := artifact.body, valid := artifact.valid }

/-- An empty draft is filled. -/
theorem returns_fillDraftArtifact_empty {artifact previous : DraftArtifact} {s s' : Store}
    {u : Unit} (h : (fillDraftArtifact artifact).Returns s u s')
    (hd : draftsOf s artifact.actionId = [previous]) (hempty : previous.subject = none) :
    s' = { s with
      drafts := s.drafts.modify (.draft artifact.artifactId) artifact.filledAs
        (fun _ _ => rfl) } := by
  obtain ⟨previous', hprev, h⟩ := (readOnly_getDraftArtifact _).returns_bind.mp h
  obtain rfl := List.singleton_injective ((draftsOf_of_returns hprev).symm.trans hd)
  obtain ⟨hid, h⟩ := returns_require_bind.mp h
  obtain ⟨hsome, -⟩ | ⟨-, h⟩ := returns_ite.mp h
  · rw [hempty] at hsome
    cases hsome
  · simp only [fillEmptyDraft, returns_require_bind] at h
    obtain ⟨-, -, h⟩ := h
    obtain ⟨b, s₁, hup, h⟩ := returns_bind.mp h
    obtain ⟨-, rfl⟩ := returns_done.mp h
    rcases returns_updateRow_true hup with ⟨r, -, rfl⟩ | ⟨hnone, -⟩
    · rfl
    · have hmem := (List.mem_filter.mp (hd ▸ List.mem_singleton_self previous' :
        previous' ∈ draftsOf s artifact.actionId)).1
      have hsome := Table.get?_of_mem (t := s.drafts) hmem (List.mem_cons_self ..)
      rw [hid, hnone] at hsome
      cases hsome

/-- Filling a draft changes the drafts only. -/
theorem returns_fillDraftArtifact {artifact : DraftArtifact} {s s' : Store} {u : Unit}
    (h : (fillDraftArtifact artifact).Returns s u s') : ∃ t, s' = { s with drafts := t } := by
  obtain ⟨previous, -, h⟩ := (readOnly_getDraftArtifact _).returns_bind.mp h
  obtain ⟨-, h⟩ := returns_require_bind.mp h
  obtain ⟨-, h⟩ | ⟨-, h⟩ := returns_ite.mp h
  · exact ⟨s.drafts, (returns_require.mp h).2⟩
  · simp only [fillEmptyDraft, returns_require_bind] at h
    obtain ⟨-, -, h⟩ := h
    obtain ⟨b, s₁, hup, h⟩ := returns_bind.mp h
    obtain ⟨-, rfl⟩ := returns_done.mp h
    rcases returns_updateRow_true hup with ⟨r, -, rfl⟩ | ⟨-, rfl⟩
    · exact ⟨_, rfl⟩
    · exact ⟨_, rfl⟩

end SupplyResponse
