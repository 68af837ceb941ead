/-
Simulated playbacks are resumable and exactly once.

* `ActionProgress` — how far a planned action is, with its attempts;
* `PlayedAction`, `PlayedDecision` — the rows of a planned Decision while its
  playback is under way, broken off, resumed or over;
* `Transaction.Plays`, `PlayStep` — the transactions of the playback calls; an
  action is completed only when its draft is filled;
* `PlaybackCall` — the calls, which run as procedures side by side and may stop
  after any of their transactions;
* `playback_exactly_once` — what holds whatever calls are made.
-/
import SupplyResponse.Runs.Planning

namespace SupplyResponse

open Transact Transact.Prog
open Keyed (keys)

variable {env : Env} {s s' : Store}

/-! ### The rows of an action -/

/-- The rows that show how far an action is are as they were. -/
structure SameProgress (s s' : Store) (actionId : String) : Prop where
  projection : s'.actionProjections.get? (.actionProjection actionId) =
    s.actionProjections.get? (.actionProjection actionId)
  attempts : attemptsOf s' actionId = attemptsOf s actionId
  drafts : draftsOf s' actionId = draftsOf s actionId

/-- The projection and the attempts of an action. -/
structure ActionAt (s : Store) (a : ExecutionAction) (status : ExecutionStatus)
    (attempts : List ExecutionAttempt) : Prop where
  projection : ∃ n, s.actionProjections.get? (.actionProjection a.actionId) =
    some ⟨a.actionId, a.withStatus status, n⟩
  attempts : attemptsOf s a.actionId = attempts

/-- An action is planned, or has one attempt, in progress or completed with it. -/
inductive ActionProgress (s : Store) (a : ExecutionAction) : ExecutionStatus → Prop
  | planned (h : ActionAt s a .planned []) : ActionProgress s a .planned
  | inProgress (attempt : ExecutionAttempt) (hstatus : attempt.status = .inProgress)
    (h : ActionAt s a .inProgress [attempt]) : ActionProgress s a .inProgress
  | completed (attempt : ExecutionAttempt) (hstatus : attempt.status = .completed)
    (h : ActionAt s a .completed [attempt]) : ActionProgress s a .completed

/-- The draft of an action is filled, or it is empty and the action goes on. -/
def DraftProgress (s : Store) (body : String) (a : ExecutionAction) (status : ExecutionStatus) :
    Prop :=
  draftsOf s a.actionId = a.draftShell.map (fun x => x.filled body) ∨
    status ≠ .completed ∧ draftsOf s a.actionId = a.draftShell

/-- An action of a Decision that is played. -/
def PlayedAction (s : Store) (body : String) (a : ExecutionAction) : Prop :=
  ∃ status, ActionProgress s a status ∧ DraftProgress s body a status

theorem ActionAt.of_same {a : ExecutionAction} {status : ExecutionStatus}
    {attempts : List ExecutionAttempt} (h : ActionAt s a status attempts)
    (hs : SameProgress s s' a.actionId) : ActionAt s' a status attempts :=
  ⟨hs.projection ▸ h.projection, hs.attempts.trans h.attempts⟩

theorem ActionProgress.of_same {a : ExecutionAction} {status : ExecutionStatus}
    (h : ActionProgress s a status) (hs : SameProgress s s' a.actionId) :
    ActionProgress s' a status := by
  cases h with
  | planned h => exact .planned (h.of_same hs)
  | inProgress attempt hstatus h => exact .inProgress attempt hstatus (h.of_same hs)
  | completed attempt hstatus h => exact .completed attempt hstatus (h.of_same hs)

theorem PlayedAction.of_same {body : String} {a : ExecutionAction} (h : PlayedAction s body a)
    (hs : SameProgress s s' a.actionId) : PlayedAction s' body a := by
  obtain ⟨status, hprogress, hdraft⟩ := h
  refine ⟨status, hprogress.of_same hs, ?_⟩
  unfold DraftProgress at hdraft ⊢
  rw [hs.drafts]
  exact hdraft

/-- The projection of an action that makes progress. -/
theorem ActionProgress.projection {a : ExecutionAction} {status : ExecutionStatus}
    (h : ActionProgress s a status) : ∃ n,
      s.actionProjections.get? (.actionProjection a.actionId) =
        some ⟨a.actionId, a.withStatus status, n⟩ := by
  cases h with
  | planned h => exact h.projection
  | inProgress attempt hstatus h => exact h.projection
  | completed attempt hstatus h => exact h.projection

/-- The action that a transaction reads is the played one. -/
theorem ActionProgress.eq_of_projected {a action : ExecutionAction} {status : ExecutionStatus}
    (h : ActionProgress s a status) (hp : Projected s action)
    (hid : a.actionId = action.actionId) : action = a.withStatus status := by
  obtain ⟨n, hrow⟩ := h.projection
  obtain ⟨m, hrow'⟩ := hp.row
  rw [hid, hrow'] at hrow
  exact (ActionProjectionRow.mk.inj (Option.some.inj hrow)).2.1

/-! ### Attempts and drafts after a write -/

theorem attemptsOf_add_of_ne {x : ExecutionAttempt} {id : String} (hx : x.actionId ≠ id)
    (h : s'.attempts = s.attempts.add x) : attemptsOf s' id = attemptsOf s id := by
  have hneg := Table.filter_add_of_neg (t := s.attempts) (r := x)
    (p := fun a => decide (a.actionId = id)) (decide_eq_false hx)
  unfold attemptsOf
  rw [h, hneg]

theorem attemptsOf_add_of_nil {x : ExecutionAttempt} {id : String} (hx : x.actionId = id)
    (hfree : s.attempts.Free x) (hnil : attemptsOf s id = [])
    (h : s'.attempts = s.attempts.add x) : attemptsOf s' id = [x] := by
  have hpos := Table.filter_add_of_pos (p := fun a => decide (a.actionId = id)) hfree
    (decide_eq_true hx)
  have hfilter : s.attempts.rows.filter (fun a => decide (a.actionId = id)) = [] :=
    List.perm_nil.mp (hnil ▸ (List.perm_insertionSort _ _).symm)
  rw [hfilter, List.nil_append] at hpos
  unfold attemptsOf
  rw [h, hpos]
  rfl

/-- The attempts of an action after one attempt was finished. -/
theorem attemptsOf_finished {attempt result : ExecutionAttempt} (id : String)
    (hstored : s.attempts.get? (.attempt attempt.attemptId) = some attempt)
    (h : s'.attempts = s.attempts.modify (.attempt attempt.attemptId) result.finishedAs
      (fun _ _ => rfl)) :
    (attempt.actionId ≠ id → attemptsOf s' id = attemptsOf s id) ∧
      (attemptsOf s id = [attempt] → attemptsOf s' id = [result.finishedAs attempt]) := by
  have hkey : Key.attempt attempt.attemptId ∈ keys attempt := List.mem_cons_self ..
  constructor
  · intro hne
    unfold attemptsOf
    rw [h, Table.filter_modify_of_notMem (f := result.finishedAs) (fun _ _ => rfl)]
    intro r hr hid hk
    obtain rfl := Option.some.inj (hstored.symm.trans (Table.get?_of_mem hr hk))
    exact hne (of_decide_eq_true hid)
  · intro hone
    have hfilter : s.attempts.rows.filter (fun a => decide (a.actionId = id)) = [attempt] :=
      List.perm_singleton.mp (hone ▸ (List.perm_insertionSort _ _).symm)
    unfold attemptsOf
    rw [h, Table.filter_modify (f := result.finishedAs) (fun _ _ => rfl), hfilter,
      List.map_singleton, if_pos hkey]
    rfl

theorem get?_modifyActionProjection {k : String} {id : String}
    {f : ActionProjectionRow → ActionProjectionRow}
    {hf : ∀ r, Key.actionProjection id ∈ keys r → keys (f r) = keys r} :
    (s.modifyActionProjection id f hf).actionProjections.get? (.actionProjection k) =
      if k = id then (s.actionProjections.get? (.actionProjection id)).map f
      else s.actionProjections.get? (.actionProjection k) := by
  unfold Store.modifyActionProjection
  split
  · rename_i hk
    rw [hk, Table.get?_modify_self]
  · rename_i hk
    rw [Table.get?_modify]
    rcases hrow : s.actionProjections.get? (.actionProjection k) with _ | row
    · rfl
    · have hkey := (Table.get?_eq_some_iff.mp hrow).2
      simp only [keys_actionProjectionRow, List.mem_singleton, Key.actionProjection.injEq] at hkey
      rw [Option.map_some, if_neg]
      simpa [← hkey] using fun h : id = k => hk h.symm

/-! ### What the transactions do to an action -/

section PlayedAction

variable {body : String} {a action : ExecutionAction} {attempt : ExecutionAttempt}

theorem get?_projected {id : String} :
    (s.projected action).get? (.actionProjection id) =
      if id = action.actionId then
        (s.actionProjections.get? (.actionProjection action.actionId)).map
          fun row => { row with action := action }
      else s.actionProjections.get? (.actionProjection id) := by
  unfold Store.projected
  rw [get?_modifyActionProjection]

theorem BeginsAttempt.attempts_eq (h : BeginsAttempt s action attempt s') :
    s'.attempts = s.attempts.add attempt ∧ s'.drafts = s.drafts := by
  obtain ⟨_, _, rfl⟩ := h.effect
  exact ⟨rfl, rfl⟩

theorem BeginsAttempt.projection (h : BeginsAttempt s action attempt s') (id : String) :
    s'.actionProjections.get? (.actionProjection id) =
      if id = action.actionId then
        (s.actionProjections.get? (.actionProjection action.actionId)).map fun row =>
          { row with
            action := action.withStatus .inProgress, currentAttempt := attempt.attemptNumber }
      else s.actionProjections.get? (.actionProjection id) := by
  obtain ⟨_, _, heq⟩ := h.effect
  rw [congrArg Store.actionProjections heq, get?_projected, ExecutionAction.withStatus_actionId,
    get?_modifyActionProjection, get?_modifyActionProjection, if_pos rfl, Option.map_map]
  split
  · rfl
  · rfl

theorem FinishesAttempt.attempts_eq {toStatus : ExecutionStatus} {errorCode : Option String}
    {now : Instant} (h : FinishesAttempt s action attempt toStatus errorCode now s') :
    s'.attempts = s.attempts.modify (.attempt attempt.attemptId)
        (attempt.finished toStatus now errorCode).finishedAs (fun _ _ => rfl) ∧
      s'.drafts = s.drafts := by
  obtain ⟨_, _, rfl⟩ := h.effect
  exact ⟨rfl, rfl⟩

theorem FinishesAttempt.projection {toStatus : ExecutionStatus} {errorCode : Option String}
    {now : Instant} (h : FinishesAttempt s action attempt toStatus errorCode now s')
    (id : String) :
    s'.actionProjections.get? (.actionProjection id) =
      if id = action.actionId then
        (s.actionProjections.get? (.actionProjection action.actionId)).map fun row =>
          { row with action := action.withStatus toStatus }
      else s.actionProjections.get? (.actionProjection id) := by
  obtain ⟨_, _, heq⟩ := h.effect
  rw [congrArg Store.actionProjections heq, get?_projected]
  rfl

theorem draftsOf_congr (h : s'.drafts = s.drafts) (id : String) :
    draftsOf s' id = draftsOf s id := by
  unfold draftsOf
  rw [h]

/-- Beginning an attempt of a planned action. -/
theorem PlayedAction.begin (h : PlayedAction s body a) (hb : BeginsAttempt s action attempt s')
    (hplanned : action.status = .planned) : PlayedAction s' body a := by
  obtain ⟨hattempts, hdrafts⟩ := hb.attempts_eq
  replace hdrafts := draftsOf_congr hdrafts a.actionId
  have hproj := hb.projection
  by_cases hid : a.actionId = action.actionId
  · obtain ⟨status, hprogress, hdraft⟩ := h
    obtain rfl := hprogress.eq_of_projected hb.projected hid
    obtain ⟨n, hrow⟩ := hprogress.projection
    cases hprogress with
    | planned hat =>
      refine ⟨.inProgress, .inProgress attempt hb.status ⟨⟨attempt.attemptNumber, ?_⟩, ?_⟩, ?_⟩
      · rw [hproj, if_pos hid, ← hid, hrow]
        rfl
      · exact attemptsOf_add_of_nil (hb.owner.trans hid.symm) hb.free hat.attempts hattempts
      · unfold DraftProgress at hdraft ⊢
        rw [hdrafts]
        exact hdraft.imp_right fun hd => ⟨by decide, hd.2⟩
    | inProgress _ _ _ => cases hplanned
    | completed _ _ _ => cases hplanned
  · refine h.of_same ⟨?_, ?_, hdrafts⟩
    · rw [hproj, if_neg hid]
    · exact attemptsOf_add_of_ne (fun heq => hid (heq.symm.trans hb.owner)) hattempts

/-- The drafts of the action are filled. -/
def DraftReady (s : Store) (actionId : String) : Prop :=
  ∀ x ∈ draftsOf s actionId, x.subject.isSome

/-- A draft shell is empty. -/
theorem subject_of_mem_draftShell {x : DraftArtifact} (h : x ∈ a.draftShell) :
    x.subject = none ∧ x.actionId = a.actionId ∧ x.decisionId = a.decisionId := by
  unfold ExecutionAction.draftShell at h
  rcases hid : a.draftArtifactId with _ | id <;> rw [hid] at h
  · cases h
  · obtain rfl := List.mem_singleton.mp h
    exact ⟨rfl, rfl, rfl⟩

/-- Completing an action whose draft, if it has one, is filled. -/
theorem PlayedAction.complete {now : Instant} {errorCode : Option String}
    (h : PlayedAction s body a)
    (hf : FinishesAttempt s action attempt .completed errorCode now s')
    (hready : a.actionId = action.actionId → DraftReady s a.actionId) :
    PlayedAction s' body a := by
  obtain ⟨hattempts, hdrafts⟩ := hf.attempts_eq
  replace hdrafts := draftsOf_congr hdrafts a.actionId
  have hproj := hf.projection
  obtain ⟨hother, hown⟩ := attemptsOf_finished a.actionId hf.stored hattempts
  by_cases hid : a.actionId = action.actionId
  · obtain ⟨status, hprogress, hdraft⟩ := h
    have hmem : attempt ∈ attemptsOf s a.actionId := by
      refine (List.mem_insertionSort _).mpr (List.mem_filter.mpr ⟨Table.mem_of_get? hf.stored, ?_⟩)
      exact decide_eq_true (hf.owner.trans hid.symm)
    obtain rfl := hprogress.eq_of_projected hf.projected hid
    obtain ⟨n, hrow⟩ := hprogress.projection
    have hallowed := hf.allowed
    cases hprogress with
    | planned hat =>
      rw [hat.attempts] at hmem
      cases hmem
    | inProgress x hx hat =>
      rw [hat.attempts, List.mem_singleton] at hmem
      subst hmem
      refine ⟨.completed, .completed _ rfl ⟨⟨n, ?_⟩, hown hat.attempts⟩, .inl ?_⟩
      · rw [hproj, if_pos hid, ← hid, hrow]
        rfl
      · rw [hdrafts]
        rcases hdraft with hdraft | ⟨-, hdraft⟩
        · exact hdraft
        · -- the draft is filled, so the shell that is stored is no draft at all
          have hshell : a.draftShell = [] := by
            refine List.eq_nil_iff_forall_not_mem.mpr fun x hx => ?_
            have hsome := hready hid x (hdraft.symm ▸ hx)
            rw [(subject_of_mem_draftShell hx).1] at hsome
            cases hsome
          rw [hdraft, hshell]
          rfl
    | completed x hx hat => exact absurd hallowed (by simp [ExecutionStatus.allowedTransitions])
  · refine h.of_same ⟨?_, hother fun heq => hid (heq.symm.trans hf.owner), hdrafts⟩
    rw [hproj, if_neg hid]

/-- A completed action is neither begun nor finished again. -/
theorem ActionProgress.begin (h : ActionProgress s a .completed)
    (hb : BeginsAttempt s action attempt s') (hplanned : action.status = .planned) :
    ActionProgress s' a .completed := by
  obtain ⟨hattempts, hdrafts⟩ := hb.attempts_eq
  have hid : a.actionId ≠ action.actionId := by
    intro hid
    rw [h.eq_of_projected hb.projected hid] at hplanned
    cases hplanned
  refine h.of_same ⟨?_, ?_, draftsOf_congr hdrafts _⟩
  · rw [hb.projection, if_neg hid]
  · exact attemptsOf_add_of_ne (fun heq => hid (heq.symm.trans hb.owner)) hattempts

theorem ActionProgress.finish {toStatus : ExecutionStatus} {errorCode : Option String}
    {now : Instant} (h : ActionProgress s a .completed)
    (hf : FinishesAttempt s action attempt toStatus errorCode now s') :
    ActionProgress s' a .completed := by
  obtain ⟨hattempts, hdrafts⟩ := hf.attempts_eq
  have hid : a.actionId ≠ action.actionId := by
    intro hid
    have hallowed := hf.allowed
    rw [h.eq_of_projected hf.projected hid] at hallowed
    cases hallowed
  refine h.of_same ⟨?_, ?_, draftsOf_congr hdrafts _⟩
  · rw [hf.projection, if_neg hid]
  · exact (attemptsOf_finished _ hf.stored hattempts).1 fun heq => hid (heq.symm.trans hf.owner)

theorem ActionProgress.of_rows {status : ExecutionStatus} (h : ActionProgress s a status)
    (hproj : s'.actionProjections = s.actionProjections) (hatt : s'.attempts = s.attempts) :
    ActionProgress s' a status := by
  have hattempts : attemptsOf s' a.actionId = attemptsOf s a.actionId := by
    unfold attemptsOf
    rw [hatt]
  cases h with
  | planned hat => exact .planned ⟨hproj ▸ hat.projection, hattempts.trans hat.attempts⟩
  | inProgress x hx hat =>
    exact .inProgress x hx ⟨hproj ▸ hat.projection, hattempts.trans hat.attempts⟩
  | completed x hx hat =>
    exact .completed x hx ⟨hproj ▸ hat.projection, hattempts.trans hat.attempts⟩

theorem FillsDraft.rows_eq {shell : DraftArtifact} {d : Decision} {option : ResponseOption}
    (h : FillsDraft s shell d option s') :
    s'.actionProjections = s.actionProjections ∧ s'.attempts = s.attempts := by
  obtain ⟨_, rfl⟩ := h.effect
  exact ⟨rfl, rfl⟩

/-- The drafts of an action after a draft was filled: another one, or its own. -/
theorem FillsDraft.draftsOf_eq {shell : DraftArtifact} {d : Decision} {option : ResponseOption}
    (h : FillsDraft s shell d option s') (id : String) :
    draftsOf s' id =
      if id = shell.actionId then [shell.filled (draftBody d option)] else draftsOf s id := by
  have hshell : shell ∈ s.drafts := by
    have hmem : shell ∈ draftsOf s shell.actionId := h.drafts ▸ List.mem_singleton_self shell
    exact (List.mem_filter.mp hmem).1
  have hrows : s'.drafts = s.drafts.modify (.draft shell.artifactId)
      (shell.filled (draftBody d option)).filledAs (fun _ _ => rfl) := by
    obtain ⟨_, rfl⟩ := h.effect
    rfl
  have hkey : Key.draft shell.artifactId ∈ keys shell := List.mem_cons_self ..
  unfold draftsOf
  rw [hrows]
  split
  · rename_i hid
    have hdrafts := h.drafts
    unfold draftsOf at hdrafts
    rw [hid, Table.filter_modify (f := (shell.filled (draftBody d option)).filledAs)
      (fun _ _ => rfl), hdrafts, List.map_singleton, if_pos hkey]
    rfl
  · rename_i hid
    refine Table.filter_modify_of_notMem (fun _ _ => rfl) fun r hr hrid hk => hid ?_
    obtain rfl := Table.eq_of_key hr hshell hk hkey
    exact (of_decide_eq_true hrid).symm

/-- Filling a draft for the Decision of the action. -/
theorem PlayedAction.fill {shell : DraftArtifact} {d d' : Decision}
    {option option' : ResponseOption} (h : PlayedAction s (draftBody d option) a)
    (hfill : FillsDraft s shell d' option' s')
    (hd : s.decisions.get? (.decision a.decisionId) = some d)
    (hoption : d.selectedOption = some option) : PlayedAction s' (draftBody d option) a := by
  obtain ⟨hprojections, hattempts⟩ := hfill.rows_eq
  by_cases hid : a.actionId = shell.actionId
  · obtain ⟨status, hprogress, hdraft⟩ := h
    have hone : draftsOf s a.actionId = [shell] := by
      rw [hid]
      exact hfill.drafts
    have hshell : a.draftShell = [shell] := by
      rcases hdraft with hdraft | ⟨-, hdraft⟩
      · -- a filled draft is not filled again
        have hmem : shell ∈ a.draftShell.map fun x => x.filled (draftBody d option) := by
          rw [← hdraft, hone]
          exact List.mem_singleton_self shell
        obtain ⟨x, -, rfl⟩ := List.mem_map.mp hmem
        cases hfill.empty
      · exact hdraft.symm.trans hone
    obtain ⟨-, -, howner⟩ := subject_of_mem_draftShell (a := a) (x := shell)
      (hshell ▸ List.mem_singleton_self shell)
    have hd' := hfill.decision
    rw [howner, hd] at hd'
    obtain rfl := Option.some.inj hd'
    obtain rfl := Option.some.inj (hoption.symm.trans hfill.selected)
    refine ⟨status, hprogress.of_rows hprojections hattempts, .inl ?_⟩
    rw [hfill.draftsOf_eq, if_pos hid, hshell]
    rfl
  · refine h.of_same ⟨by rw [hprojections], ?_, ?_⟩
    · unfold attemptsOf
      rw [hattempts]
    · rw [hfill.draftsOf_eq, if_neg hid]

end PlayedAction

/-! ### A Decision that is played -/

/-- The observations of a Decision. -/
def observationsOf (s : Store) (decisionId : String) : List OutcomeObservation :=
  s.observations.rows.filter fun o => o.decisionId = decisionId

/-- All actions are completed, and the predicted values are observed. -/
structure Finished (env : Env) (s : Store) (d : Decision) (plan : List ExecutionAction)
    (p : Playback) : Prop where
  actions : ∀ a ∈ plan, ActionProgress s a .completed
  observations : ∃ predicted statusAction recordedAt,
    d.selectedOption.bind ResponseOption.predicted = some predicted ∧
    observationsOf s d.decisionId = (predictedObservations predicted).map
      (observation env d p.playbackId statusAction recordedAt)

/-- The rows of a planned Decision whose playback may be under way. -/
structure PlayedDecision (env : Env) (s : Store) (d : Decision) (option : ResponseOption)
    (plan : List ExecutionAction) : Prop where
  stored : s.decisions.get? (.decision d.decisionId) = some d
  actions : actionsOf s d.decisionId = plan
  played : ∀ a ∈ plan, PlayedAction s (draftBody d option) a
  finished : ∀ p ∈ s.playbacks, p.decisionId = d.decisionId → p.status = .completed →
    Finished env s d plan p
  unfinished : (∀ p ∈ s.playbacks, p.decisionId = d.decisionId → p.status ≠ .completed) →
    observationsOf s d.decisionId = []

namespace PlayedDecision

variable {d : Decision} {option : ResponseOption} {plan : List ExecutionAction}

/-- A transaction that completes no playback. -/
theorem advance (h : PlayedDecision env s d option plan) (hdecisions : s'.decisions = s.decisions)
    (hactions : s'.actions = s.actions) (hobservations : s'.observations = s.observations)
    (hplaybacks : ∀ p, p.status = .completed → (p ∈ s'.playbacks ↔ p ∈ s.playbacks))
    (hplayed : ∀ a ∈ plan, PlayedAction s' (draftBody d option) a)
    (hdone : ∀ a ∈ plan, ActionProgress s a .completed → ActionProgress s' a .completed) :
    PlayedDecision env s' d option plan := by
  have hobs : observationsOf s' d.decisionId = observationsOf s d.decisionId := by
    unfold observationsOf
    rw [hobservations]
  refine ⟨hdecisions ▸ h.stored, ?_, hplayed, fun p hp hid hst => ?_, fun hnone => ?_⟩
  · have hplan := h.actions
    unfold actionsOf at hplan ⊢
    rw [hactions, hplan]
  · have hfinished := h.finished p ((hplaybacks p hst).mp hp) hid hst
    refine ⟨fun a ha => hdone a ha (hfinished.actions a ha), ?_⟩
    rw [hobs]
    exact hfinished.observations
  · rw [hobs]
    exact h.unfinished fun p hp hid hst => hnone p ((hplaybacks p hst).mpr hp) hid hst

/-- An action of the plan as it is stored. -/
theorem mem_plan (h : PlayedDecision env s d option plan) {a : ExecutionAction} (ha : a ∈ plan) :
    a ∈ s.actions ∧ a.decisionId = d.decisionId := by
  rw [← h.actions] at ha
  obtain ⟨hmem, hid⟩ := List.mem_filter.mp ha
  exact ⟨hmem, of_decide_eq_true hid⟩

/-- The actions of a plan that are listed as completed. -/
theorem completed_of_listed (h : PlayedDecision env s d option plan)
    {actions : List ExecutionAction} (hlist : (listActions d.decisionId).Returns s actions s)
    (hdone : ∀ a ∈ actions, a.status = .completed) : ∀ a ∈ plan, ActionProgress s a .completed := by
  intro a ha
  obtain ⟨b, hb, hget⟩ := returns_listActions hlist a (h.actions.symm ▸ ha)
  obtain ⟨hid, hproj⟩ := returns_getAction_projected hget
  obtain ⟨status, hprogress, -⟩ := h.played a ha
  have hstatus := hdone b hb
  rw [hprogress.eq_of_projected hproj hid.symm] at hstatus
  rwa [← show status = .completed from hstatus]

end PlayedDecision

/-- The playbacks after one that was in progress got its result. -/
theorem mem_endPlayback {previous result p : Playback}
    (hstored : s.playbacks.get? (.playback result.playbackId) = some previous)
    (h : s'.playbacks = s.playbacks.modify (.playback result.playbackId) result.ended
      (fun _ _ => rfl)) :
    p ∈ s'.playbacks ↔ p = result.ended previous ∨ p ∈ s.playbacks ∧ p ≠ previous := by
  rw [h]
  exact Table.mem_modify_of_get? hstored

theorem playback_unique {p q : Playback} (hp : p ∈ s.playbacks) (hq : q ∈ s.playbacks)
    (h : p.decisionId = q.decisionId) : p = q :=
  Table.eq_of_key hp hq (k := .playbackDecision p.decisionId) (by simp) (by simp [h])

theorem CompletesPlayback.same {e : Decision} {completed : Playback} {recordedAt : Instant}
    (h : CompletesPlayback env s e completed recordedAt s') (id : String) :
    SameProgress s s' id := by
  obtain ⟨_, _, _, _, -, -, rfl⟩ := h.effect
  exact ⟨rfl, rfl, rfl⟩

theorem CompletesPlayback.immutable_eq {e : Decision} {completed : Playback}
    {recordedAt : Instant} (h : CompletesPlayback env s e completed recordedAt s') :
    s'.decisions = s.decisions ∧ s'.actions = s.actions := by
  obtain ⟨_, _, _, _, -, -, rfl⟩ := h.effect
  exact ⟨rfl, rfl⟩

/-- Completing a playback, of this Decision or of another one. -/
theorem PlayedDecision.complete {d e : Decision} {option : ResponseOption}
    {plan : List ExecutionAction} {completed : Playback} {recordedAt : Instant}
    (h : PlayedDecision env s d option plan)
    (hc : CompletesPlayback env s e completed recordedAt s') :
    PlayedDecision env s' d option plan := by
  obtain ⟨previous, hstored, hlive, howner⟩ := hc.stored
  obtain ⟨actions, hlist, hdone⟩ := hc.actions
  obtain ⟨predicted, statusAction, _, observations, hpredicted, hobs, heq⟩ := hc.effect
  have hmem := fun p => mem_endPlayback (p := p) hstored (congrArg Store.playbacks heq)
  have hsame := hc.same
  obtain ⟨hdecisions, hactions⟩ := hc.immutable_eq
  have hplan : actionsOf s' d.decisionId = plan := by
    have hplan := h.actions
    unfold actionsOf at hplan ⊢
    rwa [hactions]
  have hrows : observationsOf s' d.decisionId = observationsOf s d.decisionId ++
      if e.decisionId = d.decisionId then (predictedObservations predicted).map
        (observation env e completed.playbackId statusAction recordedAt) else [] := by
    unfold observationsOf
    rw [congrArg Store.observations heq, hobs, List.filter_append]
    congr 1
    split
    · refine List.filter_eq_self.mpr fun o ho => ?_
      obtain ⟨item, -, rfl⟩ := List.mem_map.mp ho
      exact decide_eq_true ‹_›
    · refine List.filter_eq_nil_iff.mpr fun o ho => ?_
      obtain ⟨item, -, rfl⟩ := List.mem_map.mp ho
      exact fun hid => absurd (of_decide_eq_true hid) ‹_›
  refine ⟨hdecisions ▸ h.stored, hplan, fun a ha => (h.played a ha).of_same (hsame _), ?_, ?_⟩
  · intro p hp hid hst
    rcases (hmem p).mp hp with rfl | ⟨hp, hne⟩
    · -- the playback that was completed
      have hed : e.decisionId = d.decisionId := howner.symm.trans hid
      obtain rfl : e = d := Option.some.inj (hc.decision.symm.trans (hed ▸ h.stored))
      have hnone : observationsOf s e.decisionId = [] := by
        refine h.unfinished fun q hq hqid hqst => ?_
        obtain rfl := playback_unique hq (Table.mem_of_get? hstored) (hqid.trans howner.symm)
        rw [hlive] at hqst
        cases hqst
      have hcompleted := h.completed_of_listed hlist hdone
      refine ⟨fun a ha => (hcompleted a ha).of_same (hsame _), predicted, statusAction,
        recordedAt, hpredicted, ?_⟩
      rw [hrows, hnone, if_pos rfl, List.nil_append]
      have hpid : previous.playbackId = completed.playbackId := by
        have hk := (Table.get?_eq_some_iff.mp hstored).2
        simp only [keys_playback, List.mem_cons, Key.playback.injEq, reduceCtorEq,
          List.not_mem_nil, or_false] at hk
        exact hk.symm
      show _ = (predictedObservations predicted).map
        (observation env e previous.playbackId statusAction recordedAt)
      rw [hpid]
    · have hother : e.decisionId ≠ d.decisionId := by
        intro hed
        refine hne (playback_unique hp (Table.mem_of_get? hstored) ?_)
        rw [hid, howner, hed]
      obtain ⟨hcompleted, hobserved⟩ := h.finished p hp hid hst
      refine ⟨fun a ha => (hcompleted a ha).of_same (hsame _), ?_⟩
      rw [hrows, if_neg hother, List.append_nil]
      exact hobserved
  · intro hnone
    have hother : e.decisionId ≠ d.decisionId := by
      intro hed
      exact hnone _ ((hmem _).mpr (.inl rfl)) (howner.trans hed) hc.status
    rw [hrows, if_neg hother, List.append_nil]
    refine h.unfinished fun p hp hid hst => hnone p ((hmem p).mpr (.inr ⟨hp, ?_⟩)) hid hst
    rintro rfl
    rw [hlive] at hst
    cases hst

/-! ### The transactions of the calls -/

/-- The draft of an action that prepares one is filled. -/
def Prepared (s : Store) (actionId : String) : Prop :=
  ∀ a ∈ s.actions, a.actionId = actionId → a.kind = .prepareAlphaRecoveryDraft →
    DraftReady s actionId

/-- The transactions of the playback calls, and when they are executed. -/
def Transaction.Plays (s : Store) : Transaction → Prop
  | startPlayback .. | fillDraft .. | recordFailure .. | recordCompletion .. => True
  | beginAttempt _ requiredStatus .. => requiredStatus = .planned
  | finishAttempt actionId _ toStatus .. => toStatus = .completed ∧ Prepared s actionId
  | _ => False

/-- Nothing happens, or such a transaction commits. -/
def PlayStep (env : Env) (s s' : Store) : Prop :=
  s' = s ∨ ∃ (t : Transaction) (u : Unit), t.Plays s ∧ (t.program env).Commits s u s'

theorem Writing.actions_eq {kind : WriteKind} {v : Store} {l : List Key} {u : Store → Store}
    (h : Writing kind v l u) (hk : kind ≠ .newAction) : (u v).actions = v.actions := by
  cases h <;> first | rfl | exact absurd rfl hk

/-- The playback calls change neither the Decisions nor their actions. -/
theorem PlayStep.immutable (h : PlayStep env s s') :
    s'.decisions = s.decisions ∧ s'.actions = s.actions := by
  rcases h with rfl | ⟨t, u, ht, hc⟩
  · exact ⟨rfl, rfl⟩
  · have hk : ∀ kind ∈ t.kinds, kind ≠ .newAction ∧ kind ≠ .newDecision := by
      cases t
      all_goals first
        | exact absurd ht id
        | dsimp only [Transaction.kinds]; decide
    exact relates_of_commits
      (R := fun s s' => s'.decisions = s.decisions ∧ s'.actions = s.actions)
      (fun _ => ⟨rfl, rfl⟩) (fun h h' => ⟨h'.1.trans h.1, h'.2.trans h.2⟩)
      (fun hkind hw => ⟨hw.decisions_eq (hk _ hkind).2 _, hw.actions_eq (hk _ hkind).1⟩) hc

/-- An action without a draft of its own has none. -/
theorem PlayedAction.ready_of_prepared {body : String} {a : ExecutionAction}
    (h : PlayedAction s body a) (ha : a ∈ s.actions) (hp : Prepared s a.actionId) :
    DraftReady s a.actionId := by
  by_cases hk : a.kind = .prepareAlphaRecoveryDraft
  · exact hp a ha rfl hk
  · obtain ⟨status, -, hdraft⟩ := h
    have hnone : a.draftArtifactId = none :=
      Option.not_isSome_iff_eq_none.mp fun hsome => hk (a.draftValid.mpr hsome)
    have hshell : a.draftShell = [] := by
      unfold ExecutionAction.draftShell
      rw [hnone]
      rfl
    have hempty : draftsOf s a.actionId = [] := by
      rcases hdraft with hdraft | ⟨-, hdraft⟩
      · rw [hdraft, hshell]
        rfl
      · rw [hdraft, hshell]
    intro x hx
    rw [hempty] at hx
    cases hx

/-- What one transaction of the calls preserves. -/
theorem playedDecision_step {d : Decision} {option : ResponseOption} {plan : List ExecutionAction}
    (h : PlayedDecision env s d option plan) (hoption : d.selectedOption = some option)
    (hstep : PlayStep env s s') : PlayedDecision env s' d option plan := by
  obtain ⟨hdecisions, hactions⟩ := hstep.immutable
  rcases hstep with rfl | ⟨t, u, ht, hc⟩
  · exact h
  · cases t
    case beginAttempt actionId requiredStatus attemptUuid eventUuid startedAt occurredAt =>
      obtain ⟨attempt, hcommits⟩ := commits_effect.mp hc
      obtain ⟨action, -, hstatus, -, hb⟩ := returns_beginAttempt env hcommits
      have hplanned : action.status = .planned := hstatus.trans ht
      have hrows : s'.observations = s.observations ∧ s'.playbacks = s.playbacks := by
        obtain ⟨_, _, rfl⟩ := hb.effect
        exact ⟨rfl, rfl⟩
      exact h.advance hdecisions hactions hrows.1 (fun p _ => by rw [hrows.2])
        (fun a ha => (h.played a ha).begin hb hplanned) (fun a _ hdone => hdone.begin hb hplanned)
    case finishAttempt actionId attemptId toStatus errorCode eventUuid now =>
      obtain ⟨rfl, hprepared⟩ := ht
      obtain ⟨result, hcommits⟩ := commits_effect.mp hc
      obtain ⟨action, attempt, rfl, -, hf⟩ := returns_finishAttempt env hcommits
      have hrows : s'.observations = s.observations ∧ s'.playbacks = s.playbacks := by
        obtain ⟨_, _, rfl⟩ := hf.effect
        exact ⟨rfl, rfl⟩
      refine h.advance hdecisions hactions hrows.1 (fun p _ => by rw [hrows.2])
        (fun a ha => (h.played a ha).complete hf fun hid => ?_) (fun a _ hdone => hdone.finish hf)
      exact (h.played a ha).ready_of_prepared (h.mem_plan ha).1 (hid ▸ hprepared)
    case fillDraft actionId =>
      obtain ⟨_, hcommits⟩ := commits_effect.mp hc
      obtain ⟨shell, d', option', -, hfill⟩ := returns_fillDraft env hcommits
      have hrows : s'.observations = s.observations ∧ s'.playbacks = s.playbacks := by
        obtain ⟨_, rfl⟩ := hfill.effect
        exact ⟨rfl, rfl⟩
      refine h.advance hdecisions hactions hrows.1 (fun p _ => by rw [hrows.2])
        (fun a ha => (h.played a ha).fill hfill ?_ hoption)
        (fun a _ hdone => hdone.of_rows hfill.rows_eq.1 hfill.rows_eq.2)
      rw [(h.mem_plan ha).2]
      exact h.stored
    case startPlayback decisionId actor now =>
      obtain ⟨playback, hcommits⟩ := commits_effect.mp hc
      obtain ⟨e, -, hs⟩ := returns_startPlayback env hcommits
      have hsame : ∀ id, SameProgress s s' id := by
        obtain ⟨_, rfl⟩ := hs.effect
        exact fun _ => ⟨rfl, rfl, rfl⟩
      have hrows : s'.observations = s.observations ∧
          s'.playbacks = s.playbacks.add playback := by
        obtain ⟨_, rfl⟩ := hs.effect
        exact ⟨rfl, rfl⟩
      refine h.advance hdecisions hactions hrows.1 (fun p hp => ?_)
        (fun a ha => (h.played a ha).of_same (hsame _)) (fun a _ hdone => hdone.of_same (hsame _))
      rw [hrows.2, Table.mem_add hs.free]
      refine ⟨fun hmem => hmem.resolve_right fun heq => ?_, .inl⟩
      rw [heq, hs.status] at hp
      cases hp
    case recordFailure playbackId now =>
      obtain ⟨playback, hcommits⟩ := commits_effect.mp hc
      obtain ⟨rfl, hfailed, previous, hstored, hlive, heq⟩ := returns_recordFailure hcommits
      have hsame : ∀ id, SameProgress s s' id := by
        rw [heq]
        exact fun _ => ⟨rfl, rfl, rfl⟩
      refine h.advance hdecisions hactions (by rw [heq]) (fun p hp => ?_)
        (fun a ha => (h.played a ha).of_same (hsame _)) (fun a _ hdone => hdone.of_same (hsame _))
      rw [mem_endPlayback hstored (by rw [heq])]
      constructor
      · rintro (rfl | ⟨hmem, -⟩)
        · cases hfailed.symm.trans hp
        · exact hmem
      · refine fun hmem => .inr ⟨hmem, ?_⟩
        rintro rfl
        cases hlive.symm.trans hp
    case recordCompletion playback actions recordedAt =>
      obtain ⟨completed, hcommits⟩ := commits_effect.mp hc
      obtain ⟨e, hcompletes⟩ := returns_recordCompletion env hcommits
      exact h.complete hcompletes
    all_goals exact absurd ht id

/-- A playback with its result is never written again. -/
structure KeepsResults (s s' : Store) : Prop where
  kept : ∀ p ∈ s.playbacks, p.status ≠ .inProgress → p ∈ s'.playbacks

theorem Writing.keepsResults {kind : WriteKind} {v : Store} {l : List Key} {u : Store → Store}
    (h : Writing kind v l u) : KeepsResults v (u v) := by
  cases h
  case newPlayback r hfree => exact ⟨fun p hp _ => Table.mem_add_of_mem hp⟩
  case endPlayback row playback hlive hstored =>
    refine ⟨fun p hp hst => (mem_endPlayback hstored rfl).mpr (.inr ⟨hp, ?_⟩)⟩
    rintro rfl
    exact hst hlive
  all_goals exact ⟨fun _ hp _ => hp⟩

theorem PlayStep.keepsResults (h : PlayStep env s s') : KeepsResults s s' := by
  rcases h with rfl | ⟨t, u, -, hc⟩
  · exact ⟨fun _ hp _ => hp⟩
  · exact relates_of_commits (fun _ => ⟨fun _ hp _ => hp⟩)
      (fun h h' => ⟨fun p hp hst => h'.kept p (h.kept p hp hst) hst⟩)
      (fun _ hw => hw.keepsResults) hc

/-! ### The calls -/

/-- A call of the playback service. -/
inductive PlaybackCall (env : Env) : Process Store Raised Playback → Prop
  | start (decisionId : String) (actor : IdentitySnapshot) (now : Instant) :
    PlaybackCall env (PlaybackService.start env decisionId actor now)
  | runToCompletion (playbackId : String) (given : Nat → StepReadings) (recordedAt : Instant) :
    PlaybackCall env (PlaybackService.runToCompletion env playbackId given recordedAt)
  | recordFailure (playbackId : String) (now : Instant) :
    PlaybackCall env (PlaybackService.recordFailure playbackId now)

/-- What a call may rely on while others run: the actions stay, and a filled
draft stays filled. -/
structure PlayRely (s s' : Store) : Prop where
  actions : s'.actions = s.actions
  ready : ∀ id, DraftReady s id → DraftReady s' id

theorem PlayRely.refl (s : Store) : PlayRely s s := ⟨rfl, fun _ h => h⟩

theorem PlayRely.trans {a b c : Store} (h : PlayRely a b) (h' : PlayRely b c) : PlayRely a c :=
  ⟨h'.actions.trans h.actions, fun id hr => h'.ready id (h.ready id hr)⟩

theorem FillsDraft.ready {shell : DraftArtifact} {d : Decision} {option : ResponseOption}
    (h : FillsDraft s shell d option s') : DraftReady s' shell.actionId := by
  intro x hx
  rw [h.draftsOf_eq, if_pos rfl, List.mem_singleton] at hx
  rw [hx]
  rfl

theorem PlayStep.rely (h : PlayStep env s s') : PlayRely s s' := by
  have hactions := h.immutable.2
  refine ⟨hactions, fun key hready => ?_⟩
  rcases h with rfl | ⟨t, u, ht, hc⟩
  · exact hready
  · have hquiet : s'.drafts = s.drafts → DraftReady s' key := by
      intro heq x hx
      rw [draftsOf_congr heq] at hx
      exact hready x hx
    cases t
    case fillDraft actionId =>
      obtain ⟨_, hcommits⟩ := commits_effect.mp hc
      obtain ⟨shell, d, option, -, hfill⟩ := returns_fillDraft env hcommits
      by_cases hid : key = shell.actionId
      · rw [hid]
        exact hfill.ready
      · intro x hx
        rw [hfill.draftsOf_eq, if_neg hid] at hx
        exact hready x hx
    case beginAttempt =>
      obtain ⟨attempt, hcommits⟩ := commits_effect.mp hc
      obtain ⟨action, -, -, -, hb⟩ := returns_beginAttempt env hcommits
      exact hquiet hb.attempts_eq.2
    case finishAttempt =>
      obtain ⟨result, hcommits⟩ := commits_effect.mp hc
      obtain ⟨action, attempt, -, -, hf⟩ := returns_finishAttempt env hcommits
      exact hquiet hf.attempts_eq.2
    case startPlayback =>
      obtain ⟨playback, hcommits⟩ := commits_effect.mp hc
      obtain ⟨e, -, hs⟩ := returns_startPlayback env hcommits
      obtain ⟨_, rfl⟩ := hs.effect
      exact hquiet rfl
    case recordFailure =>
      obtain ⟨playback, hcommits⟩ := commits_effect.mp hc
      obtain ⟨-, -, _, -, -, rfl⟩ := returns_recordFailure hcommits
      exact hquiet rfl
    case recordCompletion =>
      obtain ⟨completed, hcommits⟩ := commits_effect.mp hc
      obtain ⟨e, hcompletes⟩ := returns_recordCompletion env hcommits
      intro x hx
      rw [(hcompletes.same key).drafts] at hx
      exact hready x hx
    all_goals exact absurd ht id

/-- The guarantee and the rely of a playback call. -/
abbrev Playing (env : Env) {α : Type} (Q : α → Store → Prop) (p : Process Store Raised α)
    (s : Store) : Prop :=
  p.Obeys (fun _ => True) PlayRely (PlayStep env) Q s

/-- A transaction of the calls. -/
theorem playing_transaction {α : Type} {p : Sql (Exit α)} {Q : α → Store → Prop}
    (t : Transaction) (ht : t.program env = p.effect)
    (hplays : ∀ s', PlayRely s s' → t.Plays s')
    (hc : ∀ s' a s'', PlayRely s s' → p.Commits s' a s'' → Q a s'')
    (hr : ∀ s' a s'', PlayRely s s' → p.Returns s' (.rollback a) s'' → Q a s') :
    Playing env Q (Process.transaction p) s := by
  refine Process.obeys_transaction (fun _ => .inl rfl) (fun s' a s'' hR _ hcommit => ⟨?_, ?_⟩)
    fun s' a s'' hR _ hret => hr s' a s'' hR hret
  · exact .inr ⟨t, (), hplays s' hR, by rw [ht]; exact commits_effect.mpr ⟨a, hcommit⟩⟩
  · exact hc s' a s'' hR hcommit

/-- An action as it was read: its immutable part is stored. -/
def ReadBack (s : Store) (action : ExecutionAction) : Prop :=
  s.actions.get? (.action action.actionId) = some (action.withStatus .planned)

theorem ReadBack.later {action : ExecutionAction} (h : ReadBack s action) (hR : PlayRely s s') :
    ReadBack s' action := by
  unfold ReadBack
  rw [hR.actions]
  exact h

theorem readOnly_readAction (actionId : String) : (readAction actionId).ReadOnly :=
  (readOnly_getAction _).bind fun _ => (readOnly_listAttempts _).bind fun _ => readOnly_done _

theorem readOnly_loadPlayback (playbackId : String) : (loadPlayback playbackId).ReadOnly :=
  (readOnly_getPlayback _).bind fun _ =>
    ((readOnly_listActions _).bind fun _ => readOnly_done _).ite (readOnly_done _)

theorem readOnly_canonicalPlayback (playback : Playback) :
    (canonicalPlayback playback).ReadOnly :=
  (readOnly_getPlaybackForDecision _).bind fun _ => (readOnly_orRaise _ _).bind fun _ =>
    (readOnly_require _ _).bind fun _ => readOnly_done _

theorem playing_currentAttempt {action : ExecutionAction} {attempts : List ExecutionAttempt}
    {given : StepReadings} (h : ReadBack s action) :
    Playing env (fun _ s => ReadBack s action) (currentAttempt env action attempts given) s := by
  unfold currentAttempt
  split
  · refine playing_transaction (.beginAttempt _ .planned _ _ _ _) rfl (fun _ _ => rfl)
      (fun s' a s'' hR hc => ?_) (fun s' a s'' hR _ => h.later hR)
    obtain ⟨b, -, -, -, hb⟩ := returns_beginAttempt env hc
    have hactions : s''.actions = s'.actions := by
      obtain ⟨_, _, rfl⟩ := hb.effect
      rfl
    unfold ReadBack
    rw [hactions]
    exact h.later hR
  · exact h
  · trivial

/-- After `prepareDraft` the action may be completed. -/
theorem playing_prepareDraft {action : ExecutionAction} (h : ReadBack s action) :
    Playing env (fun _ s => Prepared s action.actionId) (prepareDraft env action) s := by
  unfold prepareDraft
  refine Process.Obeys.ite (fun hkind => ?_) (fun hkind => ?_)
  · refine playing_transaction (.fillDraft action.actionId) rfl (fun _ _ => trivial)
      (fun s' u s'' hR hc => ?_) (fun s' u s'' hR hret => ?_)
    · obtain ⟨shell, d, option, hid, hfill⟩ := returns_fillDraft env hc
      exact fun _ _ _ _ => hid ▸ hfill.ready
    · -- the draft was filled before
      obtain ⟨shell, hshell, hrest⟩ := (readOnly_getDraftArtifact _).returns_bind.mp hret
      obtain ⟨d, -, hrest⟩ := (readOnly_getDecision env _ _).returns_bind.mp hrest
      obtain ⟨option, -, hrest⟩ := returns_orRaise_bind.mp hrest
      obtain ⟨hsome, -⟩ | ⟨-, hrest⟩ := returns_ite.mp hrest
      · intro _ _ _ _ x hx
        rw [draftsOf_of_returns hshell, List.mem_singleton] at hx
        rwa [hx]
      · obtain ⟨_, _, -, hrest⟩ := returns_bind.mp hrest
        obtain ⟨_, _, -, hrest⟩ := returns_bind.mp hrest
        cases (returns_done.mp hrest).1
  · intro a ha hid hprepare
    obtain rfl : a = action.withStatus .planned := by
      have hget := Table.get?_of_mem ha (k := .action a.actionId) (List.mem_cons_self ..)
      rw [hid, show s.actions.get? _ = _ from h] at hget
      exact (Option.some.inj hget).symm
    exact absurd hprepare hkind

theorem playing_advanceAction {action : ExecutionAction} {attempts : List ExecutionAttempt}
    {given : StepReadings} (h : ReadBack s action) :
    Playing env (fun _ _ => True) (advanceAction env action attempts given) s := by
  refine Process.Obeys.bind (playing_currentAttempt h) fun attempt s₁ h₁ => ?_
  refine Process.Obeys.bind (playing_prepareDraft h₁) fun _ s₂ h₂ => ?_
  refine Process.Obeys.bind (Q := fun _ _ => True) ?_ fun _ _ _ => trivial
  refine playing_transaction (.finishAttempt action.actionId attempt.attemptId .completed none _ _)
    rfl (fun s' hR => ⟨rfl, ?_⟩) (fun _ _ _ _ _ => trivial) (fun _ _ _ _ _ => trivial)
  intro a ha hid hprepare
  exact hR.ready _ (h₂ a (hR.actions ▸ ha) hid hprepare)

theorem playing_completeAction {expected : ExecutionAction} {given : StepReadings} :
    Playing env (fun _ _ => True) (completeAction env expected given) s := by
  refine Process.Obeys.bind (Q := fun x s => ReadBack s x.1) ?_ fun x s₁ h => ?_
  · refine Process.obeys_read (fun _ => .inl rfl) (readOnly_readAction _) fun s' x _ _ hret => ?_
    obtain ⟨action, haction, hret⟩ := (readOnly_getAction _).returns_bind.mp hret
    obtain ⟨attempts, -, hret⟩ := (readOnly_listAttempts _).returns_bind.mp hret
    obtain ⟨rfl, -⟩ := returns_done.mp hret
    exact (returns_getAction_projected haction).2.stored
  · exact Process.Obeys.ite (fun _ => trivial) fun _ => playing_advanceAction h

/-- The loop: what its body guarantees, it guarantees. -/
theorem playing_completeActions {actions steps : List ExecutionAction}
    {given : Nat → StepReadings} {index : Nat} :
    Playing env (fun _ _ => True) (completeActions env actions given steps index) s := by
  induction steps generalizing s index with
  | nil => trivial
  | cons step rest ih => exact Process.Obeys.bind playing_completeAction fun _ _ _ => ih

theorem playing_runToCompletion {playbackId : String} {given : Nat → StepReadings}
    {recordedAt : Instant} :
    Playing env (fun _ _ => True)
      (PlaybackService.runToCompletion env playbackId given recordedAt) s := by
  refine Process.Obeys.bind (Q := fun _ _ => True) ?_ fun x s₁ _ => ?_
  · exact Process.obeys_read (fun _ => .inl rfl) (readOnly_loadPlayback _) fun _ _ _ _ _ => trivial
  · refine Process.Obeys.ite (fun _ => ?_) fun _ => trivial
    refine Process.Obeys.bind playing_completeActions fun _ s₂ _ => ?_
    exact playing_transaction (.recordCompletion _ _ _) rfl (fun _ _ => trivial)
      (fun _ _ _ _ _ => trivial) (fun _ _ _ _ _ => trivial)

theorem playing_start {decisionId : String} {actor : IdentitySnapshot} {now : Instant} :
    Playing env (fun _ _ => True) (PlaybackService.start env decisionId actor now) s := by
  refine Process.Obeys.bind (Q := fun _ _ => True) ?_ fun x s₁ _ => ?_
  · refine Process.obeys_unit (fun _ => .inl rfl) (fun s' a s'' _ _ hc => ⟨?_, trivial⟩)
      fun _ _ _ _ _ _ => trivial
    exact .inr ⟨.startPlayback _ _ _, (), trivial, commits_effect.mpr ⟨a, hc⟩⟩
  · cases x with
    | commit playback =>
      exact Process.obeys_read (fun _ => .inl rfl) (readOnly_canonicalPlayback _)
        fun _ _ _ _ _ => trivial
    | rollback existing => trivial

/-- Every call is made of the transactions above. -/
theorem PlaybackCall.obeys {p : Process Store Raised Playback} (h : PlaybackCall env p)
    (s : Store) : Playing env (fun _ _ => True) p s := by
  cases h with
  | start => exact playing_start
  | runToCompletion => exact playing_runToCompletion
  | recordFailure =>
    exact playing_transaction (.recordFailure _ _) rfl (fun _ _ => trivial)
      (fun _ _ _ _ _ => trivial) (fun _ _ _ _ _ => trivial)

/-! ### Every sequence of calls -/

/-- Nothing was played yet. -/
structure Unplayed (s : Store) : Prop where
  attempts : s.attempts = ∅
  playbacks : s.playbacks = ∅
  observations : s.observations = ∅

/-- The statements that play. -/
def playKinds : List WriteKind :=
  [.newAttempt, .endAttempt, .newPlayback, .endPlayback, .newObservation]

theorem Writing.unplayed {kind : WriteKind} {v : Store} {l : List Key} {u : Store → Store}
    (h : Writing kind v l u) (hk : kind ∉ playKinds) (hv : Unplayed v) : Unplayed (u v) := by
  cases h
  case newAttempt => exact absurd (by decide) hk
  case endAttempt => exact absurd (by decide) hk
  case newPlayback => exact absurd (by decide) hk
  case endPlayback => exact absurd (by decide) hk
  case newObservation => exact absurd (by decide) hk
  all_goals exact ⟨hv.attempts, hv.playbacks, hv.observations⟩

/-- The transactions up to the plan do not play. -/
theorem unplayed_of_run (h : PlanningRun env Store.empty s) : Unplayed s := by
  induction h with
  | refl => exact ⟨rfl, rfl, rfl⟩
  | tail _ hstep ih =>
    obtain ⟨t, u, ht, hc⟩ := hstep
    have hk : ∀ kind ∈ t.kinds, kind ∉ playKinds := by
      cases t
      all_goals first
        | exact absurd ht id
        | dsimp only [Transaction.kinds]; decide
    exact relates_of_commits (R := fun s s' => Unplayed s → Unplayed s') (fun _ => id)
      (fun h h' hs => h' (h hs)) (fun hkind hw => hw.unplayed (hk _ hkind)) hc ih

/-- A Decision as it was planned is one that may be played. -/
theorem PlannedDecision.played {d : Decision} (hd : d ∈ s.decisions) (h : PlannedDecision env s d)
    (hs : Unplayed s) : ∃ option, d.selectedOption = some option ∧
      PlayedDecision env s d option (actionsOf s d.decisionId) := by
  obtain ⟨analysis, plan, -, hplan, hactions, hrows⟩ := h
  obtain ⟨-, option, kinds, hoption, -, -, -⟩ := planActions_spec env hplan
  refine ⟨option, hoption, Table.get?_of_mem hd (List.mem_cons_self ..), rfl, ?_, ?_, ?_⟩
  · intro a ha
    obtain ⟨hstatus, hplanned⟩ := hrows a (hactions ▸ ha)
    have hself : a.withStatus .planned = a := by
      rw [← hstatus]
      rfl
    refine ⟨.planned, .planned ⟨⟨0, ?_⟩, ?_⟩, .inr ⟨by decide, hplanned.draft⟩⟩
    · rw [hself]
      exact hplanned.projection
    · unfold attemptsOf
      rw [hs.attempts]
      rfl
  · intro p hp
    rw [hs.playbacks] at hp
    exact absurd hp (Table.notMem_empty p)
  · intro _
    unfold observationsOf
    rw [hs.observations]
    rfl

/-- The calls that are made on a database without any go along `PlayStep`. -/
theorem playSteps_of_reaches {c : Pool Store Raised Playback}
    (h : Pool.Reaches (PlaybackCall env) ⟨s, []⟩ c) :
    Relation.ReflTransGen (PlayStep env) s c.world ∧
      ∀ p ∈ c.calls, Playing env (fun _ _ => True) p c.world :=
  (Pool.sound PlayRely.refl PlayRely.trans (fun _ => .inl rfl) (fun _ h => h.rely)
    (fun _ _ => trivial) (fun _ hp s _ => hp.obeys s) trivial
    (fun _ hp => absurd hp List.not_mem_nil) h).2

theorem playSteps_later {c c' : Pool Store Raised Playback}
    (hcalls : ∀ p ∈ c.calls, Playing env (fun _ _ => True) p c.world)
    (h : Pool.Reaches (PlaybackCall env) c c') :
    Relation.ReflTransGen (PlayStep env) c.world c'.world :=
  (Pool.sound PlayRely.refl PlayRely.trans (fun _ => .inl rfl) (fun _ h => h.rely)
    (fun _ _ => trivial) (fun _ hp s _ => hp.obeys s) trivial hcalls h).2.1

/-- What every sequence of transactions of the calls preserves. -/
theorem playedDecision_of_steps {d : Decision} {option : ResponseOption}
    {plan : List ExecutionAction} (h : PlayedDecision env s d option plan)
    (hoption : d.selectedOption = some option)
    (hsteps : Relation.ReflTransGen (PlayStep env) s s') : PlayedDecision env s' d option plan := by
  induction hsteps with
  | refl => exact h
  | tail _ hstep ih => exact playedDecision_step ih hoption hstep

theorem keepsResults_of_steps (h : Relation.ReflTransGen (PlayStep env) s s') :
    KeepsResults s s' := by
  induction h with
  | refl => exact ⟨fun _ hp _ => hp⟩
  | tail _ hstep ih => exact ⟨fun p hp hst => hstep.keepsResults.kept p (ih.kept p hp hst) hst⟩

/-- The draft of a completed action. -/
theorem draft_of_completed {body : String} {a : ExecutionAction}
    (h : PlayedAction s body a) (hdone : ActionProgress s a .completed) {artifactId : String}
    (hid : a.draftArtifactId = some artifactId) :
    ∃ x, draftsOf s a.actionId = [x] ∧ x.artifactId = artifactId ∧
      x.subject = some draftSubject ∧ x.body = some body := by
  obtain ⟨status, hprogress, hdraft⟩ := h
  have hcompleted : status = .completed := by
    obtain ⟨n, hrow⟩ := hprogress.projection
    obtain ⟨m, hrow'⟩ := hdone.projection
    rw [hrow] at hrow'
    have heq := (ActionProjectionRow.mk.inj (Option.some.inj hrow')).2.1
    exact congrArg ExecutionAction.status heq
  rcases hdraft with hdraft | ⟨hne, -⟩
  · unfold ExecutionAction.draftShell at hdraft
    rw [hid] at hdraft
    exact ⟨_, hdraft, rfl, rfl, rfl⟩
  · exact absurd hcompleted hne

/-- A run of a playback that has its result is over after one read. -/
theorem runToCompletion_ended {p : Playback} (hp : p ∈ s.playbacks) (hst : p.status ≠ .inProgress)
    (given : Nat → StepReadings) (recordedAt : Instant) :
    (PlaybackService.runToCompletion env p.playbackId given recordedAt).step s = (.done p, s) := by
  have hget : s.playbacks.get? (.playback p.playbackId) = some p :=
    Table.get?_of_mem hp (List.mem_cons_self ..)
  have hload : (loadPlayback p.playbackId).Returns s (.rollback (p, [])) s := by
    rw [loadPlayback, getPlayback, returns_getRow_bind]
    exact ⟨p, hget, returns_ite.mpr (.inr ⟨hst, returns_done.mpr ⟨rfl, rfl⟩⟩)⟩
  have hclose : (loadPlayback p.playbackId).close s = (.ok (.rollback (p, [])), s) := by
    unfold Prog.close
    rw [show (loadPlayback p.playbackId).run s = _ from hload]
  unfold PlaybackService.runToCompletion
  rw [Process.step_transaction_bind hclose]
  exact Prod.ext (if_neg hst) rfl

/-- Simulated playback is resumable and exactly once.  Whatever calls of `start`,
`run_to_completion` and `record_failure` are made side by side on the actions of
a planned Decision, and wherever they stop: the Decision has one playback, which
gets one result; if that is a completion, every action is completed with one
attempt, the draft is filled and the five predicted values are observed, and
otherwise nothing is observed; a run of a playback with a result does nothing. -/
theorem playback_exactly_once {s₀ : Store} {d : Decision} {pool : Pool Store Raised Playback}
    (h : PlanningRun env Store.empty s₀) (hd : d ∈ s₀.decisions)
    (hplanned : PlannedDecision env s₀ d)
    (hpool : Pool.Reaches (PlaybackCall env) ⟨s₀, []⟩ pool) :
    ∃ option, d.selectedOption = some option ∧
    actionsOf pool.world d.decisionId = actionsOf s₀ d.decisionId ∧
    (∀ p ∈ pool.world.playbacks, ∀ q ∈ pool.world.playbacks, p.decisionId = d.decisionId →
      q.decisionId = d.decisionId → p = q) ∧
    (∀ p ∈ pool.world.playbacks, p.status ≠ .inProgress → ∀ later,
      Pool.Reaches (PlaybackCall env) pool later → p ∈ later.world.playbacks) ∧
    (∀ p ∈ pool.world.playbacks, p.decisionId = d.decisionId → p.status = .completed →
      (∀ a ∈ actionsOf pool.world d.decisionId, ∃ attempt n,
        pool.world.actionProjections.get? (.actionProjection a.actionId) =
          some ⟨a.actionId, a.withStatus .completed, n⟩ ∧
        attemptsOf pool.world a.actionId = [attempt] ∧ attempt.status = .completed) ∧
      (∃ a ∈ actionsOf pool.world d.decisionId, a.kind = .prepareAlphaRecoveryDraft) ∧
      (∀ a ∈ actionsOf pool.world d.decisionId, a.kind = .prepareAlphaRecoveryDraft →
        ∃ x, draftsOf pool.world a.actionId = [x] ∧ a.draftArtifactId = some x.artifactId ∧
          x.subject = some draftSubject ∧ x.body = some (draftBody d option)) ∧
      ∃ predicted, option.predicted = some predicted ∧
        (observationsOf pool.world d.decisionId).map (fun o => (o.metric, o.observedValue, o.unit)) =
          predictedObservations predicted ∧
        ∀ o ∈ observationsOf pool.world d.decisionId,
          o.observedValue = o.predictedValue ∧ o.playbackId = some p.playbackId) ∧
    ((∀ p ∈ pool.world.playbacks, p.decisionId = d.decisionId → p.status ≠ .completed) →
      observationsOf pool.world d.decisionId = []) ∧
    ∀ p ∈ pool.world.playbacks, p.status ≠ .inProgress → ∀ given recordedAt,
      (PlaybackService.runToCompletion env p.playbackId given recordedAt).step pool.world =
        (.done p, pool.world) := by
  obtain ⟨option, hoption, hstart⟩ := hplanned.played hd (unplayed_of_run h)
  obtain ⟨hsteps, hcalls⟩ := playSteps_of_reaches hpool
  have hplayed := playedDecision_of_steps hstart hoption hsteps
  obtain ⟨analysis, plan, -, hplan, hactions, -⟩ := hplanned
  obtain ⟨-, option', kinds, hoption', hkinds, hmap, -⟩ := planActions_spec env hplan
  refine ⟨option, hoption, hplayed.actions, ?_, ?_, ?_, hplayed.unfinished, ?_⟩
  · exact fun p hp q hq hpd hqd => playback_unique hp hq (hpd.trans hqd.symm)
  · exact fun p hp hst later hlater =>
      (keepsResults_of_steps (playSteps_later hcalls hlater)).kept p hp hst
  · intro p hp hid hst
    obtain ⟨hdone, predicted, statusAction, recordedAt, hpredicted, hobs⟩ :=
      hplayed.finished p hp hid hst
    rw [hplayed.actions]
    refine ⟨fun a ha => ?_, ?_, fun a ha hk => ?_, predicted, ?_, ?_, ?_⟩
    · cases hdone a ha with
      | completed attempt hstatus hat =>
        obtain ⟨n, hrow⟩ := hat.projection
        exact ⟨attempt, n, hrow, hat.attempts, hstatus⟩
    · -- every option prepares a draft
      have hmem : ExecutionActionKind.prepareAlphaRecoveryDraft ∈ kinds := by
        rcases hk : option'.optionKind <;> rw [hk] at hkinds <;> cases hkinds <;> decide
      rw [← hmap] at hmem
      obtain ⟨a, ha, hk⟩ := List.mem_map.mp hmem
      exact ⟨a, hactions.symm ▸ ha, hk⟩
    · obtain ⟨artifactId, hartifact⟩ := Option.isSome_iff_exists.mp (a.draftValid.mp hk)
      obtain ⟨x, hx, hxid, hsubject, hbody⟩ :=
        draft_of_completed (hplayed.played a ha) (hdone a ha) hartifact
      exact ⟨x, hx, hxid ▸ hartifact, hsubject, hbody⟩
    · rw [hoption] at hpredicted
      exact hpredicted
    · rw [hobs, List.map_map]
      exact List.map_id _
    · intro o ho
      rw [hobs] at ho
      obtain ⟨item, -, rfl⟩ := List.mem_map.mp ho
      exact ⟨rfl, rfl⟩
  · exact fun p hp hst given recordedAt => runToCompletion_ended hp hst given recordedAt

/-- The playback of the approval of the sample case: started, and run. -/
def sampleCalls : List (Process Store Raised Playback) :=
  [PlaybackService.start sampleEnv "RL-DECISION-1" sampleAlex 1,
    PlaybackService.runToCompletion sampleEnv
      (deterministicId sampleEnv "RL-PLAYBACK" "RL-DECISION-1" "simulated-playback")
      (fun n => ⟨toString n, "start-" ++ toString n, "end-" ++ toString n, 1, 1, 2⟩) 9]

theorem sampleCalls_calls : ∀ p ∈ sampleCalls, PlaybackCall sampleEnv p := by
  intro p hp
  rcases List.mem_cons.mp hp with rfl | hp
  · exact .start _ _ _
  · obtain rfl := List.mem_singleton.mp hp
    exact .runToCompletion _ _ _

/-- The playback of the sample case is completed, with its observations. -/
theorem playback_exactly_once_sample :
    ∃ (pool : Pool Store Raised Playback) (p : Playback), p ∈ pool.world.playbacks ∧
      p.status = .completed ∧ (observationsOf pool.world p.decisionId).length = 5 := by
  have hstate : (match history (Transaction.program sampleEnv) samplePlanning Store.empty with
      | s => s.outbox.rows.any (fun row => row.event.decisionId = "RL-DECISION-1" ∧
            row.processedAt.isSome) &&
          s.decisions.rows.any (fun d => d.decisionId = "RL-DECISION-1") &&
          (Pool.sequence sampleCalls s).playbacks.rows.any (fun p =>
            p.status = .completed ∧ p.decisionId = "RL-DECISION-1")) = true := by
    decide +kernel
  obtain ⟨hplan, hplayback⟩ := Bool.and_eq_true_iff.mp hstate
  obtain ⟨hevent, hdecision⟩ := Bool.and_eq_true_iff.mp hplan
  obtain ⟨row, hrow, hprocessed⟩ := List.any_eq_true.mp hevent
  obtain ⟨d, hd, hid⟩ := List.any_eq_true.mp hdecision
  obtain ⟨p, hp, hcompleted⟩ := List.any_eq_true.mp hplayback
  obtain ⟨hstatus, howner⟩ := of_decide_eq_true hcompleted
  obtain ⟨hrowId, hrowProcessed⟩ := of_decide_eq_true hprocessed
  have hdid := of_decide_eq_true hid
  have hplanned := (allPlanned_of_run samplePlanning_run).2.planned d hd
    ⟨row, hrow, hrowId.trans hdid.symm, hrowProcessed⟩
  obtain ⟨calls, hreach⟩ := Pool.reaches_sequence sampleCalls_calls
    (history (Transaction.program sampleEnv) samplePlanning Store.empty) []
  obtain ⟨option, -, -, -, -, hfinished, -, -⟩ :=
    playback_exactly_once samplePlanning_run hd hplanned hreach
  obtain ⟨-, -, -, predicted, -, hobs, -⟩ := hfinished p hp (howner.trans hdid.symm) hstatus
  refine ⟨⟨Pool.sequence sampleCalls _, calls⟩, p, hp, hstatus, ?_⟩
  have hlength := congrArg List.length hobs
  rw [List.length_map] at hlength
  rw [howner, ← hdid]
  exact hlength

end SupplyResponse