/-
The status events name the attempts that they report.

* `NamesAttempt` — the attempt of an event exists and shows how the event, or
  the later event of the attempt, left it;
* `AttemptJournal` — the invariant: an attempt has one event that begins it and at most
  one, later, that ends it;
* `JournalStep` — all that a transaction does to attempts and status events;
* `Transaction.CancelsUnnamed` — a cancellation of an action that is not in
  progress is given no attempt id;
* `events_name_attempts` — the events under that condition, and the run in which
  a planned action is cancelled with an attempt id.
-/
import SupplyResponse.Runs.Playing

namespace SupplyResponse

open Transact Transact.Prog
open Keyed (keys)

variable {env : Env} {s s' : Store}

/-! ### Events and attempts -/

/-- A later event of the same attempt. -/
def ExecutionStatusEvent.Follows (later e : ExecutionStatusEvent) : Prop :=
  later.attemptId = e.attemptId ∧ later.actionId = e.actionId ∧
    e.sequenceNumber < later.sequenceNumber

/-- The attempt that the event names, if any, is one of its action, and has the
status of the event, or of the later event of the attempt. -/
def NamesAttempt (s : Store) (e : ExecutionStatusEvent) : Prop :=
  ∀ id, e.attemptId = some id →
    ∃ attempt, s.attempts.get? (.attempt id) = some attempt ∧ attempt.actionId = e.actionId ∧
      ((∀ later ∈ s.statusEvents, ¬later.Follows e) → attempt.status = e.toStatus) ∧
      ∀ later ∈ s.statusEvents, later.Follows e → attempt.status = later.toStatus

/-- Every named attempt exists; it is begun by one event and ended by at most
one, which is the later of the two. -/
structure AttemptJournal (s : Store) : Prop where
  named : ∀ e ∈ s.statusEvents, ∀ id, e.attemptId = some id →
    ∃ attempt, s.attempts.get? (.attempt id) = some attempt ∧ attempt.actionId = e.actionId ∧
      (e.toStatus = .inProgress ∨ e.toStatus = attempt.status ∧ attempt.status ≠ .inProgress)
  ended : ∀ e ∈ s.statusEvents, ∀ id, e.attemptId = some id → e.toStatus = .inProgress →
    ∀ attempt, s.attempts.get? (.attempt id) = some attempt → attempt.status ≠ .inProgress →
      ∃ later ∈ s.statusEvents, later.Follows e
  ordered : ∀ e ∈ s.statusEvents, ∀ later ∈ s.statusEvents, e.attemptId.isSome →
    later.Follows e → e.toStatus = .inProgress ∧ later.toStatus ≠ .inProgress

theorem AttemptJournal.empty : AttemptJournal Store.empty :=
  ⟨fun _ he => absurd he (Table.notMem_empty _), fun _ he => absurd he (Table.notMem_empty _),
    fun _ he => absurd he (Table.notMem_empty _)⟩

theorem AttemptJournal.namesAttempt (h : AttemptJournal s) {e : ExecutionStatusEvent}
    (he : e ∈ s.statusEvents) : NamesAttempt s e := by
  intro id hid
  obtain ⟨attempt, hget, haction, hstatus⟩ := h.named e he id hid
  refine ⟨attempt, hget, haction, fun hlast => ?_, fun later hlater hfollows => ?_⟩
  · rcases hstatus with hbegins | ⟨hends, -⟩
    · by_contra hne
      obtain ⟨later, hlater, hfollows⟩ :=
        h.ended e he id hid hbegins attempt hget (hbegins ▸ hne)
      exact hlast later hlater hfollows
    · exact hends.symm
  · have hlaterId : later.attemptId = some id := hfollows.1.trans hid
    obtain ⟨attempt', hget', -, hstatus'⟩ := h.named later hlater id hlaterId
    obtain rfl : attempt = attempt' := Option.some.inj (hget.symm.trans hget')
    have hsome : e.attemptId.isSome := by rw [hid]; rfl
    have hne := (h.ordered e he later hlater hsome hfollows).2
    rcases hstatus' with hbegins | ⟨hends, -⟩
    · exact absurd hbegins hne
    · exact hends.symm

/-- A final status is not in progress. -/
theorem isFinal_ne_inProgress {status : ExecutionStatus} (h : status.IsFinal) :
    status ≠ .inProgress := by
  rintro rfl
  obtain h | h | h := h <;> cases h

/-! ### What a transaction does to them -/

/-- The event is behind all events of its action. -/
def IsLast (s : Store) (event : ExecutionStatusEvent) : Prop :=
  ∀ e ∈ s.statusEvents, e.actionId = event.actionId → e.sequenceNumber < event.sequenceNumber

/-- The attempts are as they were; the new events name none. -/
structure Unnamed (s s' : Store) : Prop where
  attempts : s'.attempts = s.attempts
  kept : ∀ e ∈ s.statusEvents, e ∈ s'.statusEvents
  new : ∀ e ∈ s'.statusEvents, e ∈ s.statusEvents ∨ e.attemptId = none

namespace Unnamed

theorem refl (s : Store) : Unnamed s s := ⟨rfl, fun _ => id, fun _ => .inl⟩

theorem trans {a b c : Store} (h : Unnamed a b) (h' : Unnamed b c) : Unnamed a c :=
  ⟨h'.attempts.trans h.attempts, fun e he => h'.kept e (h.kept e he),
    fun e he => (h'.new e he).elim (h.new e) .inr⟩

theorem of_eq (attempts : s'.attempts = s.attempts) (events : s'.statusEvents = s.statusEvents) :
    Unnamed s s' :=
  ⟨attempts, fun _ he => events ▸ he, fun _ he => .inl (events ▸ he)⟩

theorem of_add {event : ExecutionStatusEvent} (attempts : s'.attempts = s.attempts)
    (free : s.statusEvents.Free event) (events : s'.statusEvents = s.statusEvents.add event)
    (names : event.attemptId = none) : Unnamed s s' := by
  refine ⟨attempts, fun e he => ?_, fun e he => ?_⟩
  · rw [events]
    exact Table.mem_add_of_mem he
  · rw [events, Table.mem_add free] at he
    rcases he with he | rfl
    · exact .inl he
    · exact .inr names

theorem journal (h : Unnamed s s') (hs : AttemptJournal s) : AttemptJournal s' := by
  have old : ∀ {e}, e ∈ s'.statusEvents → e.attemptId.isSome → e ∈ s.statusEvents := by
    intro e he hsome
    rcases h.new e he with he | hnone
    · exact he
    · rw [hnone] at hsome
      cases hsome
  refine ⟨fun e he id hid => ?_, fun e he id hid hstart attempt hget hopen => ?_,
    fun e he later hlater hsome hfollows => ?_⟩
  · rw [h.attempts]
    exact hs.named e (old he (hid ▸ rfl)) id hid
  · rw [h.attempts] at hget
    obtain ⟨later, hlater, hfollows⟩ :=
      hs.ended e (old he (hid ▸ rfl)) id hid hstart attempt hget hopen
    exact ⟨later, h.kept later hlater, hfollows⟩
  · exact hs.ordered e (old he hsome) later (old hlater (hfollows.1 ▸ hsome)) hsome hfollows

end Unnamed

/-- One new event, which names the attempt and is the last one of its action. -/
structure Reports (s : Store) (attempt : ExecutionAttempt) (event : ExecutionStatusEvent)
    (s' : Store) : Prop where
  free : s.statusEvents.Free event
  events : s'.statusEvents = s.statusEvents.add event
  last : IsLast s event
  names : event.attemptId = some attempt.attemptId
  owner : attempt.actionId = event.actionId

theorem Reports.mem_iff {attempt : ExecutionAttempt} {event : ExecutionStatusEvent}
    (h : Reports s attempt event s') (e : ExecutionStatusEvent) :
    e ∈ s'.statusEvents ↔ e ∈ s.statusEvents ∨ e = event := by
  rw [h.events]
  exact Table.mem_add h.free

/-- A transaction adds events without attempts, or begins an attempt, or ends
one, with one event that names it. -/
inductive JournalStep (s s' : Store) : Prop
  | unnamed (h : Unnamed s s')
  | begins (attempt : ExecutionAttempt) (event : ExecutionStatusEvent)
    (report : Reports s attempt event s') (free : s.attempts.Free attempt)
    (attempts : s'.attempts = s.attempts.add attempt) (live : attempt.status = .inProgress)
    (toStatus : event.toStatus = .inProgress)
  | ends (attempt result : ExecutionAttempt) (event : ExecutionStatusEvent)
    (report : Reports s attempt event s')
    (stored : s.attempts.get? (.attempt attempt.attemptId) = some attempt)
    (live : attempt.status = .inProgress)
    (attempts : s'.attempts = s.attempts.modify (.attempt attempt.attemptId) result.finishedAs
      (fun _ _ => rfl))
    (toStatus : event.toStatus = result.status) (final : result.status ≠ .inProgress)

/-- The attempts after one of them was finished. -/
theorem get?_attempt_finished {attempt result : ExecutionAttempt} {id : String}
    (h : s'.attempts = s.attempts.modify (.attempt attempt.attemptId) result.finishedAs
      (fun _ _ => rfl)) :
    s'.attempts.get? (.attempt id) =
      if id = attempt.attemptId then
        (s.attempts.get? (.attempt attempt.attemptId)).map result.finishedAs
      else s.attempts.get? (.attempt id) := by
  rw [h]
  split
  · rename_i hid
    rw [hid, Table.get?_modify_self]
  · rename_i hid
    rcases hget : s.attempts.get? (.attempt id) with _ | row
    · rw [Table.get?_modify, hget]
      rfl
    · refine Table.get?_modify_of_notMem hget fun hk => hid ?_
      have hrow := attemptId_of_get? hget
      simp only [keys_executionAttempt, List.mem_cons, Key.attempt.injEq, reduceCtorEq,
        List.not_mem_nil, or_false] at hk
      exact hrow.symm.trans hk.symm

namespace JournalStep

/-- A new attempt, with the event that begins it. -/
theorem journal_begins {attempt : ExecutionAttempt} {event : ExecutionStatusEvent}
    (report : Reports s attempt event s') (free : s.attempts.Free attempt)
    (attempts : s'.attempts = s.attempts.add attempt) (live : attempt.status = .inProgress)
    (toStatus : event.toStatus = .inProgress) (hs : AttemptJournal s) : AttemptJournal s' := by
  -- no event names the new attempt yet
  have hfresh : ∀ e ∈ s.statusEvents, e.attemptId ≠ event.attemptId := by
    intro e he heq
    obtain ⟨old, hget, -⟩ := hs.named e he _ (heq.trans report.names)
    rw [free (.attempt attempt.attemptId) (List.mem_cons_self ..)] at hget
    cases hget
  have hkeep : ∀ {k a}, s.attempts.get? k = some a → s'.attempts.get? k = some a := by
    intro k a hget
    rw [attempts]
    exact Table.get?_add_of_some hget
  have hnew : s'.attempts.get? (.attempt attempt.attemptId) = some attempt := by
    rw [attempts]
    exact Table.get?_of_mem (Table.mem_add_self free) (List.mem_cons_self ..)
  refine ⟨fun e he id hid => ?_, fun e he id hid hstart a hget hopen => ?_,
    fun e he later hlater hsome hfollows => ?_⟩
  · rcases (report.mem_iff e).mp he with he | rfl
    · obtain ⟨a, hget, haction, hstatus⟩ := hs.named e he id hid
      exact ⟨a, hkeep hget, haction, hstatus⟩
    · obtain rfl : attempt.attemptId = id := Option.some.inj (report.names.symm.trans hid)
      exact ⟨attempt, hnew, report.owner, .inl toStatus⟩
  · rcases (report.mem_iff e).mp he with he | rfl
    · obtain ⟨a', hget', -⟩ := hs.named e he id hid
      obtain rfl : a' = a := Option.some.inj ((hkeep hget').symm.trans hget)
      obtain ⟨later, hlater, hfollows⟩ := hs.ended e he id hid hstart a' hget' hopen
      exact ⟨later, (report.mem_iff later).mpr (.inl hlater), hfollows⟩
    · obtain rfl : attempt.attemptId = id := Option.some.inj (report.names.symm.trans hid)
      obtain rfl : attempt = a := Option.some.inj (hnew.symm.trans hget)
      exact absurd live hopen
  · rcases (report.mem_iff e).mp he with he | rfl
    · rcases (report.mem_iff later).mp hlater with hlater | rfl
      · exact hs.ordered e he later hlater hsome hfollows
      · exact absurd hfollows.1.symm (hfresh e he)
    · rcases (report.mem_iff later).mp hlater with hlater | rfl
      · exact absurd hfollows.1 (hfresh later hlater)
      · exact absurd hfollows.2.2 (lt_irrefl _)

/-- A finished attempt, with the event that ends it. -/
theorem journal_ends {attempt result : ExecutionAttempt} {event : ExecutionStatusEvent}
    (report : Reports s attempt event s')
    (stored : s.attempts.get? (.attempt attempt.attemptId) = some attempt)
    (live : attempt.status = .inProgress)
    (attempts : s'.attempts = s.attempts.modify (.attempt attempt.attemptId) result.finishedAs
      (fun _ _ => rfl))
    (toStatus : event.toStatus = result.status) (final : result.status ≠ .inProgress)
    (hs : AttemptJournal s) : AttemptJournal s' := by
  have hnew : s'.attempts.get? (.attempt attempt.attemptId) =
      some (result.finishedAs attempt) := by
    rw [get?_attempt_finished attempts, if_pos rfl, stored]
    rfl
  -- so far the attempt was only begun
  have hbegun : ∀ e ∈ s.statusEvents, e.attemptId = some attempt.attemptId →
      attempt.actionId = e.actionId ∧ e.toStatus = .inProgress := by
    intro e he hid
    obtain ⟨a, hget, haction, hstatus⟩ := hs.named e he _ hid
    obtain rfl : attempt = a := Option.some.inj (stored.symm.trans hget)
    exact ⟨haction, hstatus.resolve_right fun h => h.2 live⟩
  refine ⟨fun e he id hid => ?_, fun e he id hid hstart a hget hopen => ?_,
    fun e he later hlater hsome hfollows => ?_⟩
  · rcases (report.mem_iff e).mp he with he | rfl
    · by_cases heq : id = attempt.attemptId
      · subst heq
        obtain ⟨haction, hstart⟩ := hbegun e he hid
        exact ⟨_, hnew, haction, .inl hstart⟩
      · rw [get?_attempt_finished attempts, if_neg heq]
        exact hs.named e he id hid
    · obtain rfl : attempt.attemptId = id := Option.some.inj (report.names.symm.trans hid)
      exact ⟨_, hnew, report.owner, .inr ⟨toStatus, final⟩⟩
  · rcases (report.mem_iff e).mp he with he | rfl
    · by_cases heq : id = attempt.attemptId
      · subst heq
        have howner := (hbegun e he hid).1
        exact ⟨event, (report.mem_iff event).mpr (.inr rfl), report.names.trans hid.symm,
          report.owner.symm.trans howner, report.last e he (howner.symm.trans report.owner)⟩
      · rw [get?_attempt_finished attempts, if_neg heq] at hget
        obtain ⟨later, hlater, hfollows⟩ := hs.ended e he id hid hstart a hget hopen
        exact ⟨later, (report.mem_iff later).mpr (.inl hlater), hfollows⟩
    · exact absurd (toStatus.symm.trans hstart) final
  · rcases (report.mem_iff e).mp he with he | rfl
    · rcases (report.mem_iff later).mp hlater with hlater | rfl
      · exact hs.ordered e he later hlater hsome hfollows
      · have hid := hfollows.1.symm.trans report.names
        exact ⟨(hbegun e he hid).2, fun heq => final (toStatus.symm.trans heq)⟩
    · rcases (report.mem_iff later).mp hlater with hlater | rfl
      · have hlt := report.last later hlater hfollows.2.1
        exact absurd (hlt.trans hfollows.2.2) (lt_irrefl _)
      · exact absurd hfollows.2.2 (lt_irrefl _)

theorem journal (h : JournalStep s s') (hs : AttemptJournal s) : AttemptJournal s' := by
  cases h with
  | unnamed h => exact h.journal hs
  | begins attempt event report free attempts live toStatus =>
    exact journal_begins report free attempts live toStatus hs
  | ends attempt result event report stored live attempts toStatus final =>
    exact journal_ends report stored live attempts toStatus final hs

end JournalStep

/-! ### The transactions -/

/-- An appended event is the last one of its action. -/
theorem AppendsEvent.isLast {event : ExecutionStatusEvent} (h : AppendsEvent s event s') :
    IsLast s event := by
  intro e he haction
  have hmem : e ∈ eventsOf s event.actionId :=
    (List.mem_insertionSort _).mpr (List.mem_filter.mpr ⟨he, decide_eq_true haction⟩)
  have hnumber := List.mem_map_of_mem (f := ExecutionStatusEvent.sequenceNumber) hmem
  have hgapless : (eventsOf s event.actionId).map ExecutionStatusEvent.sequenceNumber =
    List.range' 1 (eventsOf s event.actionId).length := h.gapless
  rw [hgapless, List.mem_range'_1] at hnumber
  have hsequence := h.sequence
  omega

theorem AppendsEvent.reports {attempt : ExecutionAttempt} {event : ExecutionStatusEvent}
    {s₁ : Store} (h : AppendsEvent s₁ event s') (hevents : s₁.statusEvents = s.statusEvents)
    (names : event.attemptId = some attempt.attemptId)
    (owner : attempt.actionId = event.actionId) : Reports s attempt event s' := by
  have hlast := h.isLast
  have hfree := h.free
  unfold IsLast at hlast
  rw [hevents] at hlast hfree
  exact ⟨hfree, by rw [h.effect, ← hevents], hlast, names, owner⟩

theorem InsertsAction.unnamed {action : ExecutionAction} {eventUuid : String}
    (h : InsertsAction s action eventUuid s') : Unnamed s s' := by
  obtain ⟨drafts, -, -, -, hfree, -, rfl⟩ := h.effect
  exact .of_add rfl hfree rfl rfl

theorem InsertsPlan.unnamed {actions : List ExecutionAction} (h : InsertsPlan s actions s') :
    Unnamed s s' := by
  induction h with
  | nil s => exact .refl s
  | found _ _ ih => exact ih
  | inserted hins _ ih => exact hins.unnamed.trans ih

theorem Plans.unnamed {planner : ActionPlanner} {claim : OutboxClaim} {d : Decision}
    {analysis : AnalysisVersion} {actions : List ExecutionAction}
    (h : Plans s planner claim d analysis actions s') : Unnamed s s' := by
  obtain ⟨now, processedAt, row, s₁, s₂, hguarded, hinserts, -, rfl⟩ := h.effect
  have hfirst : Unnamed s s₁ := by
    rw [hguarded.frame]
    exact .of_eq rfl rfl
  exact (hfirst.trans hinserts.unnamed).trans (.of_eq rfl rfl)

theorem unnamed_createAction {action created : ExecutionAction} {eventUuid : String}
    (h : (createAction env action eventUuid).Commits s created s') : Unnamed s s' := by
  obtain ⟨b, s₁, hins, h⟩ := returns_bind.mp h
  have hfirst : Unnamed s s₁ := by
    obtain ⟨-, -, ⟨-, rfl, -⟩ | ⟨-, hinserts⟩⟩ := returns_insertActionIfAbsent env hins
    · exact .refl _
    · exact hinserts.unnamed
  obtain ⟨-, h⟩ | ⟨-, h⟩ := returns_ite.mp h
  · obtain ⟨d, s₂, hguard, h⟩ := returns_bind.mp h
    obtain ⟨t, rfl⟩ := (returns_guardExecutionCurrent env hguard).2.effect
    obtain ⟨a, -, h⟩ := (readOnly_getAction _).returns_bind.mp h
    obtain ⟨-, rfl⟩ := returns_done.mp h
    exact hfirst.trans (.of_eq rfl rfl)
  · obtain ⟨a, -, h⟩ := (readOnly_getAction _).returns_bind.mp h
    cases (returns_done.mp h).1

theorem begins_beginAttempt {actionId : String} {requiredStatus : ExecutionStatus}
    {attemptUuid eventUuid : String} {startedAt occurredAt : Instant} {attempt : ExecutionAttempt}
    (h : (beginAttempt env actionId requiredStatus attemptUuid eventUuid startedAt
      occurredAt).Commits s attempt s') : JournalStep s s' := by
  obtain ⟨action, -, h⟩ := (readOnly_getAction _).returns_bind.mp h
  obtain ⟨-, h⟩ := returns_require_bind.mp h
  obtain ⟨-, h⟩ := returns_require_bind.mp h
  obtain ⟨d, s₁, hguard, h⟩ := returns_bind.mp h
  obtain ⟨t, rfl⟩ := (returns_guardExecutionCurrent env hguard).2.effect
  obtain ⟨attempts, -, h⟩ := (readOnly_listAttempts _).returns_bind.mp h
  obtain ⟨events, -, h⟩ := (readOnly_listStatusEvents _).returns_bind.mp h
  obtain ⟨_, s₂, hins, h⟩ := returns_bind.mp h
  obtain ⟨-, hlive, hfree, rfl⟩ := returns_insertAttempt hins
  obtain ⟨_, s₃, hup, h⟩ := returns_bind.mp h
  obtain ⟨-, rfl⟩ := returns_updateActionProjection hup
  obtain ⟨_, s₄, happ, h⟩ := returns_bind.mp h
  obtain ⟨-, rfl⟩ := returns_done.mp h
  have happends := returns_appendStatusEvent happ
  refine .begins _ _ (happends.reports rfl rfl rfl) hfree ?_ hlive rfl
  rw [happends.effect]
  rfl

theorem ends_finishAttempt {actionId attemptId : String} {toStatus : ExecutionStatus}
    {errorCode : Option String} {eventUuid : String} {now : Instant} {result : ExecutionAction}
    (h : (finishAttempt env actionId attemptId toStatus errorCode eventUuid now).Commits s result
      s') : JournalStep s s' := by
  obtain ⟨action, ha, h⟩ := (readOnly_getAction _).returns_bind.mp h
  obtain ⟨rfl, -⟩ := returns_getAction_projected ha
  obtain ⟨-, h⟩ := returns_require_bind.mp h
  rw [getAttempt, returns_getRow_bind] at h
  obtain ⟨attempt, hatt, h⟩ := h
  obtain ⟨⟨howner, hlive⟩, h⟩ := returns_require_bind.mp h
  obtain rfl := attemptId_of_get? hatt
  obtain ⟨_, s₁, hguard, h⟩ := returns_bind.mp h
  obtain ⟨t, rfl⟩ := returns_guardCompletion env hguard
  obtain ⟨events, -, h⟩ := (readOnly_listStatusEvents _).returns_bind.mp h
  obtain ⟨_, s₂, hend, h⟩ := returns_bind.mp h
  obtain ⟨-, -, -, hfinal, rfl⟩ := returns_updateAttempt hend
  obtain ⟨_, s₃, hup, h⟩ := returns_bind.mp h
  obtain ⟨-, rfl⟩ := returns_updateActionProjection hup
  obtain ⟨_, s₄, happ, h⟩ := returns_bind.mp h
  obtain ⟨-, rfl⟩ := returns_done.mp h
  have happends := returns_appendStatusEvent happ
  refine .ends attempt (attempt.finished toStatus now errorCode) _
    (happends.reports rfl rfl howner) hatt hlive ?_ rfl (isFinal_ne_inProgress hfinal)
  rw [happends.effect]
  rfl

/-- A cancelled attempt is the last one of an action in progress. -/
theorem returns_cancelCurrentAttempt {actionId : String} {attemptId id : Option String}
    {now : Instant} (h : (cancelCurrentAttempt actionId attemptId now).Returns s id s') :
    ∃ current ∈ s.attempts, current.actionId = actionId ∧ current.status = .inProgress ∧
      id = some current.attemptId ∧
      s' = { s with
        attempts := s.attempts.modify (.attempt current.attemptId)
          ({ current with status := .cancelled, completedAt := some now } :
            ExecutionAttempt).finishedAs (fun _ _ => rfl) } := by
  obtain ⟨attempts, hatt, h⟩ := (readOnly_listAttempts _).returns_bind.mp h
  obtain ⟨rfl, -⟩ := returns_select.mp hatt
  obtain ⟨current, hcurrent, h⟩ := returns_orRaise_bind.mp h
  obtain ⟨hlast, hlive⟩ := Option.filter_eq_some_iff.mp hcurrent
  obtain ⟨_, s₁, hend, h⟩ := returns_bind.mp h
  obtain ⟨rfl, rfl⟩ := returns_done.mp h
  obtain ⟨-, -, -, -, rfl⟩ := returns_updateAttempt hend
  have hmem : current ∈ attemptsOf s actionId := List.mem_of_getLast? hlast
  obtain ⟨hstored, howner⟩ := List.mem_filter.mp ((List.mem_insertionSort _).mp hmem)
  exact ⟨current, hstored, of_decide_eq_true howner, (of_decide_eq_true hlive).1, rfl, rfl⟩

/-- A cancellation ends the attempt of an action in progress; otherwise its
event has the attempt id that the caller gave. -/
theorem cancel_cases {actionId : String} {attemptId : Option String} {eventUuid : String}
    {now : Instant} {result : ExecutionAction}
    (h : (cancel actionId attemptId eventUuid now).Commits s result s')
    (hunnamed : ∀ row, s.actionProjections.get? (.actionProjection actionId) = some row →
      row.action.status ≠ .inProgress → attemptId = none) : JournalStep s s' := by
  obtain ⟨action, ha, h⟩ := (readOnly_getAction _).returns_bind.mp h
  obtain ⟨rfl, hprojected⟩ := returns_getAction_projected ha
  obtain ⟨-, h⟩ := returns_require_bind.mp h
  obtain ⟨id, s₁, hattempt, h⟩ := returns_bind.mp h
  obtain ⟨events, -, h⟩ := (readOnly_listStatusEvents _).returns_bind.mp h
  obtain ⟨_, s₂, hup, h⟩ := returns_bind.mp h
  obtain ⟨-, rfl⟩ := returns_updateActionProjection hup
  obtain ⟨_, s₃, happ, h⟩ := returns_bind.mp h
  obtain ⟨-, rfl⟩ := returns_done.mp h
  have happends := returns_appendStatusEvent happ
  obtain ⟨hlive, hattempt⟩ | ⟨hlive, hattempt⟩ := returns_ite.mp hattempt
  · obtain ⟨current, hstored, howner, hopen, rfl, rfl⟩ := returns_cancelCurrentAttempt hattempt
    refine .ends current { current with status := .cancelled, completedAt := some now } _
      (happends.reports rfl rfl howner)
      (Table.get?_of_mem hstored (List.mem_cons_self ..)) hopen ?_ rfl nofun
    rw [happends.effect]
    rfl
  · obtain ⟨rfl, rfl⟩ := returns_done.mp hattempt
    obtain ⟨n, hrow⟩ := hprojected.row
    have hnone := hunnamed _ hrow hlive
    exact .unnamed (.of_add (by rw [happends.effect]; rfl) happends.free
      (by rw [happends.effect]; rfl) hnone)

/-- A cancellation of an action that is not in progress is given no attempt id. -/
def Transaction.CancelsUnnamed (s : Store) : Transaction → Prop
  | .cancel actionId attemptId _ _ =>
    ∀ row, s.actionProjections.get? (.actionProjection actionId) = some row →
      row.action.status ≠ .inProgress → attemptId = none
  | _ => True

theorem Writing.unnamed {kind : WriteKind} {v : Store} {l : List Key} {u : Store → Store}
    (h : Writing kind v l u)
    (hk : kind ∉ [WriteKind.newAttempt, .endAttempt, .newStatusEvent]) : Unnamed v (u v) := by
  cases h
  case newAttempt => exact absurd (by decide) hk
  case endAttempt => exact absurd (by decide) hk
  case newStatusEvent => exact absurd (by decide) hk
  all_goals exact .of_eq rfl rfl

/-- What a transaction does to the attempts and the status events. -/
theorem journalStep_of_commits {t : Transaction} {u : Unit} (hcancels : t.CancelsUnnamed s)
    (hc : (t.program env).Commits s u s') : JournalStep s s' := by
  have hquiet : (∀ kind ∈ t.kinds, kind ∉ [WriteKind.newAttempt, .endAttempt, .newStatusEvent]) →
      JournalStep s s' := fun hk => .unnamed <|
    relates_of_commits Unnamed.refl Unnamed.trans (fun hkind hw => hw.unnamed (hk _ hkind)) hc
  cases t
  case createAction action eventUuid =>
    obtain ⟨created, hc⟩ := commits_effect.mp hc
    exact .unnamed (unnamed_createAction hc)
  case processOutbox planner filter eventUuid processedAt =>
    obtain ⟨outcome, hc⟩ := commits_effect.mp hc
    obtain ⟨claim, d, analysis, actions, -, -, hplans⟩ := returns_processTransaction env hc
    exact .unnamed hplans.unnamed
  case beginAttempt actionId required attemptUuid eventUuid startedAt occurredAt =>
    obtain ⟨attempt, hc⟩ := commits_effect.mp hc
    exact begins_beginAttempt hc
  case finishAttempt actionId attemptId toStatus errorCode eventUuid now =>
    obtain ⟨result, hc⟩ := commits_effect.mp hc
    exact ends_finishAttempt hc
  case cancel actionId attemptId eventUuid now =>
    obtain ⟨result, hc⟩ := commits_effect.mp hc
    exact cancel_cases hc hcancels
  all_goals exact hquiet (by dsimp only [Transaction.kinds]; decide)

/-! ### Runs -/

/-- A committed transaction whose cancellation, if it is one, names no attempt
that it does not end. -/
def UnnamedStep (env : Env) (s s' : Store) : Prop :=
  ∃ (t : Transaction) (u : Unit), t.CancelsUnnamed s ∧ (t.program env).Commits s u s'

theorem journal_of_run (h : Relation.ReflTransGen (UnnamedStep env) s s') (hs : AttemptJournal s) :
    AttemptJournal s' := by
  induction h with
  | refl => exact hs
  | tail _ hstep ih =>
    obtain ⟨t, u, hcancels, hc⟩ := hstep
    exact (journalStep_of_commits hcancels hc).journal ih

/-- Every status event names a real attempt, in every state that the service
reaches while cancellations of planned actions are given no attempt id. -/
theorem events_name_attempts (h : Relation.ReflTransGen (UnnamedStep env) Store.empty s) :
    ∀ e ∈ s.statusEvents, NamesAttempt s e :=
  fun _ he => (journal_of_run h .empty).namesAttempt he

/-! ### Two runs -/

/-- Transactions that name no attempt to a cancellation make such a run. -/
theorem run_of_unnamed {ts : List Transaction} (h : ∀ t ∈ ts, ∀ s, t.CancelsUnnamed s)
    (s : Store) :
    Relation.ReflTransGen (UnnamedStep env) s (history (Transaction.program env) ts s) := by
  induction ts generalizing s with
  | nil => exact .refl
  | cons t ts ih =>
    have hrest := ih (fun t' ht' => h t' (List.mem_cons_of_mem _ ht'))
      ((t.program env).transact s).2
    rcases (t.program env).transact_cases s with hsame | ⟨a, hc⟩
    · show Relation.ReflTransGen _ s (history _ ts ((t.program env).transact s).2)
      rw [hsame] at hrest ⊢
      exact hrest
    · exact .head ⟨t, a, h t (List.mem_cons_self ..) s, hc⟩ hrest

def auditedAction : ExecutionAction where
  actionId := "action"
  caseId := "case"
  decisionId := "RL-DECISION-1"
  kind := .updateDisruptionStatus
  ownerKind := .system
  ownerPersonaId := none
  status := .planned
  createdAt := 0
  draftArtifactId := none
  purpose := none
  expectedResult := none
  executionMode := none
  ownerValid := ⟨rfl, rfl⟩
  draftValid := by decide

/-- The sample case with an action, and one or two more transactions. -/
def auditedTransactions (last : List Transaction) : List Transaction :=
  sampleTransactions ++ .createAction auditedAction "1" :: last

/-- An attempt is begun and cancelled. -/
theorem events_name_attempts_sample :
    let s := history (Transaction.program sampleEnv)
      (auditedTransactions [.beginAttempt "action" .planned "1" "2" 0 0,
        .cancel "action" none "3" 0]) Store.empty
    (∃ e ∈ s.statusEvents, e.attemptId = some "RL-ATTEMPT-1" ∧ e.toStatus = .cancelled) ∧
      ∀ e ∈ s.statusEvents, NamesAttempt s e := by
  intro s
  have hrun : Relation.ReflTransGen (UnnamedStep sampleEnv) Store.empty s := by
    refine run_of_unnamed (fun t ht => ?_) _
    simp only [auditedTransactions, sampleTransactions, List.cons_append, List.nil_append,
      List.mem_cons, List.not_mem_nil, or_false] at ht
    rcases ht with rfl | rfl | rfl | rfl | rfl | rfl | rfl | rfl
    case inr.inr.inr.inr.inr.inr.inr => exact fun _ _ _ _ => rfl
    all_goals exact fun _ => trivial
  refine ⟨?_, events_name_attempts hrun⟩
  have hevent : (s.statusEvents.get? (.statusEvent "RL-EXECUTION-EVENT-3")).any (fun e =>
      e.attemptId = some "RL-ATTEMPT-1" ∧ e.toStatus = .cancelled) = true := by
    decide +kernel
  obtain ⟨e, he, hprop⟩ := (Option.any_eq_true _ _).mp hevent
  exact ⟨e, Table.mem_of_get? he, of_decide_eq_true hprop⟩

/-- A planned action is cancelled with the id of an attempt that nobody began. -/
theorem cancelled_event_names_no_attempt :
    let s := history (Transaction.program sampleEnv)
      (auditedTransactions [.cancel "action" (some "RL-ATTEMPT-9") "2" 0]) Store.empty
    ∃ e ∈ s.statusEvents, e.attemptId = some "RL-ATTEMPT-9" ∧ ¬NamesAttempt s e := by
  intro s
  have hevent : (s.statusEvents.get? (.statusEvent "RL-EXECUTION-EVENT-2")).any (fun e =>
      e.attemptId = some "RL-ATTEMPT-9" ∧ (s.attempts.get? (.attempt "RL-ATTEMPT-9")).isNone) =
        true := by
    decide +kernel
  obtain ⟨e, he, hprop⟩ := (Option.any_eq_true _ _).mp hevent
  obtain ⟨hid, hnone⟩ := of_decide_eq_true hprop
  refine ⟨e, Table.mem_of_get? he, hid, fun hnames => ?_⟩
  obtain ⟨attempt, hget, -⟩ := hnames _ hid
  rw [hget] at hnone
  cases hnone

end SupplyResponse
