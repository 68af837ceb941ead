/-
Planning from the outbox is exactly once, and all or nothing.

* `PlannedRows`, `PlannedDecision` — the rows of a planned action, and those of
  a planned Decision;
* `InsertsPlan.inserts` — a plan that finds none of its actions inserts them all;
* `AllPlanned` — every event is pending and its Decision without actions, or
  processed and its Decision planned;
* `OnlyFails` — what a failed attempt leaves of its claim;
* `Transaction.Planning` — the transactions up to the plan, with `plan_actions`
  or an exception as planner;
* `planned_exactly_once` — what holds in every run of these.
-/
import SupplyResponse.Runs.Status

namespace SupplyResponse

open Transact Transact.Prog
open Keyed (keys)

variable {env : Env} {s s' : Store}

/-! ### The rows of a plan -/

/-- The draft shell that belongs to a new action. -/
def ExecutionAction.draftShell (a : ExecutionAction) : List DraftArtifact :=
  (a.draftArtifactId.map fun id =>
    DraftArtifact.empty id a.actionId a.decisionId a.createdAt).toList

/-- A planned action as it is stored: its record, its projection, the first
event of its history and its draft shell. -/
structure PlannedRows (s : Store) (a : ExecutionAction) : Prop where
  action : s.actions.get? (.action a.actionId) = some a
  projection : s.actionProjections.get? (.actionProjection a.actionId) = some ⟨a.actionId, a, 0⟩
  history : ∃ eventUuid, eventsOf s a.actionId = [.initial eventUuid a]
  draft : draftsOf s a.actionId = a.draftShell

/-- The drafts belong to stored actions. -/
def DraftsOwned (s : Store) : Prop :=
  ∀ x ∈ s.drafts, ∃ a ∈ s.actions, a.actionId = x.actionId

theorem actionId_ne {a b : ExecutionAction} (hfree : s.actions.Free b) (ha : a ∈ s.actions) :
    a.actionId ≠ b.actionId := by
  intro hid
  have hnone := hfree (.action b.actionId) (List.mem_cons_self ..)
  have hsome := Table.get?_of_mem ha (k := .action a.actionId) (List.mem_cons_self ..)
  rw [hid, hnone] at hsome
  cases hsome

theorem eventsOf_eq_nil {actionId : String} :
    eventsOf s actionId = [] ↔ (s.statusEvents.rows.filter fun e => e.actionId = actionId) = [] := by
  unfold eventsOf
  rw [← List.length_eq_zero_iff, List.length_insertionSort, List.length_eq_zero_iff]

namespace InsertsAction

variable {a b : ExecutionAction} {eventUuid : String}

/-- The draft shell of the new action is all that the drafts gained. -/
theorem drafts_rows (h : InsertsAction s b eventUuid s') :
    s'.drafts.rows = s.drafts.rows ++ b.draftShell := by
  obtain ⟨drafts, hsome, hnone, -, -, -, rfl⟩ := h.effect
  unfold ExecutionAction.draftShell
  rcases hid : b.draftArtifactId with _ | artifactId
  · rw [hnone hid]
    simp
  · obtain ⟨hfree, rfl⟩ := hsome artifactId hid
    rw [Table.rows_add hfree]
    rfl

theorem actions_rows (h : InsertsAction s b eventUuid s') :
    s'.actions.rows = s.actions.rows ++ [b] := by
  obtain ⟨drafts, -, -, -, -, -, rfl⟩ := h.effect
  exact Table.rows_add h.free

/-- The drafts of an action after another one, or this one, was inserted. -/
theorem draftsOf_eq (h : InsertsAction s b eventUuid s') (actionId : String) :
    draftsOf s' actionId =
      draftsOf s actionId ++ if b.actionId = actionId then b.draftShell else [] := by
  unfold draftsOf
  rw [h.drafts_rows, List.filter_append]
  congr 1
  unfold ExecutionAction.draftShell
  rcases b.draftArtifactId with _ | artifactId
  · simp
  · by_cases hid : b.actionId = actionId
    · simp [DraftArtifact.empty, hid]
    · simp [DraftArtifact.empty, hid]

theorem draftsOwned (h : InsertsAction s b eventUuid s') (hs : DraftsOwned s) :
    DraftsOwned s' := by
  intro x hx
  have hmem : x ∈ s.drafts.rows ∨ x ∈ b.draftShell := by
    rw [Table.mem_def, h.drafts_rows, List.mem_append] at hx
    exact hx
  have hactions : ∀ a ∈ s.actions.rows ++ [b], a ∈ s'.actions := by
    intro a ha
    rwa [Table.mem_def, h.actions_rows]
  rcases hmem with hx | hx
  · obtain ⟨a, ha, hid⟩ := hs x hx
    exact ⟨a, hactions a (List.mem_append_left _ ha), hid⟩
  · refine ⟨b, hactions b (List.mem_append_right _ (List.mem_singleton_self b)), ?_⟩
    unfold ExecutionAction.draftShell at hx
    rcases hid : b.draftArtifactId with _ | artifactId <;> rw [hid] at hx
    · cases hx
    · obtain rfl := List.mem_singleton.mp hx
      rfl

/-- A new action has exactly its planned rows. -/
theorem plannedRows (h : InsertsAction s b eventUuid s') (hs : DraftsOwned s) :
    PlannedRows s' b := by
  have hdrafts : draftsOf s b.actionId = [] := by
    refine List.filter_eq_nil_iff.mpr fun x hx hid => ?_
    obtain ⟨a, ha, hax⟩ := hs x hx
    exact actionId_ne h.free ha (hax.trans (of_decide_eq_true hid))
  have hdraft := h.draftsOf_eq b.actionId
  rw [hdrafts, if_pos rfl, List.nil_append] at hdraft
  obtain ⟨drafts, -, -, hproj, hevent, hempty, rfl⟩ := h.effect
  refine ⟨?_, ?_, ⟨eventUuid, ?_⟩, hdraft⟩
  · exact Table.get?_of_mem (Table.mem_add_self h.free) (by simp)
  · exact Table.get?_of_mem (Table.mem_add_self hproj) (by simp)
  · have hrows := Table.filter_add_of_pos (p := fun e => decide (e.actionId = b.actionId)) hevent
      (decide_eq_true rfl)
    rw [eventsOf_eq_nil.mp hempty, List.nil_append] at hrows
    unfold eventsOf
    rw [hrows]
    rfl

/-- The rows of the other actions stay. -/
theorem keeps_rows (h : InsertsAction s b eventUuid s') (ha : PlannedRows s a) :
    PlannedRows s' a := by
  have hne := actionId_ne h.free (Table.mem_of_get? ha.action)
  have hdraft := h.draftsOf_eq a.actionId
  rw [if_neg hne.symm, List.append_nil, ha.draft] at hdraft
  obtain ⟨drafts, -, -, -, hevent, -, rfl⟩ := h.effect
  obtain ⟨uuid, hhistory⟩ := ha.history
  refine ⟨Table.get?_add_of_some ha.action, Table.get?_add_of_some ha.projection, ⟨uuid, ?_⟩,
    hdraft⟩
  have hrows := Table.filter_add_of_neg (t := s.statusEvents)
    (r := ExecutionStatusEvent.initial eventUuid b)
    (p := fun e => decide (e.actionId = a.actionId)) (decide_eq_false hne.symm)
  unfold eventsOf at hhistory ⊢
  rw [hrows]
  exact hhistory

end InsertsAction

/-- A plan of new, distinct actions inserts all of them. -/
theorem InsertsPlan.inserts {actions : List ExecutionAction} (h : InsertsPlan s actions s')
    (hs : DraftsOwned s) (hnodup : actions.Nodup) (hnew : ∀ a ∈ actions, a ∉ s.actions) :
    s'.actions.rows = s.actions.rows ++ actions ∧ (∀ a ∈ actions, PlannedRows s' a) ∧
      DraftsOwned s' ∧ ∀ b, PlannedRows s b → PlannedRows s' b := by
  induction h with
  | nil s => exact ⟨(List.append_nil _).symm, fun _ ha => absurd ha List.not_mem_nil, hs, fun _ => id⟩
  | found hstored _ _ =>
    exact absurd (Table.mem_of_get? hstored) (hnew _ (List.mem_cons_self ..))
  | @inserted s s₁ s' action eventUuid rest hins _ ih =>
    obtain ⟨hfirst, hrest⟩ := List.nodup_cons.mp hnodup
    have hrows := hins.actions_rows
    have hnew' : ∀ a ∈ rest, a ∉ s₁.actions := by
      intro a ha hmem
      rw [Table.mem_def, hrows, List.mem_append, List.mem_singleton] at hmem
      rcases hmem with hmem | rfl
      · exact hnew a (List.mem_cons_of_mem _ ha) hmem
      · exact hfirst ha
    obtain ⟨hall, hplanned, howned, hkeep⟩ := ih (hins.draftsOwned hs) hrest hnew'
    refine ⟨?_, fun a ha => ?_, howned, fun b hb => hkeep b (hins.keeps_rows hb)⟩
    · rw [hall, hrows, List.append_assoc, List.singleton_append]
    · rcases List.mem_cons.mp ha with rfl | ha
      · exact hkeep a (hins.plannedRows hs)
      · exact hplanned a ha

/-! ### The invariant -/

/-- An event is pending until it is processed; a claim is never committed. -/
def OutboxRow.Settled (row : OutboxRow) : Prop :=
  (row.processedAt = none ∧ row.claimStatus = .pending) ∨
    (row.processedAt.isSome ∧ row.claimStatus = .processed)

/-- The event of the Decision is processed. -/
def Processed (s : Store) (decisionId : String) : Prop :=
  ∃ row ∈ s.outbox, row.event.decisionId = decisionId ∧ row.processedAt.isSome

/-- The Decision has exactly the actions of its plan, all rows of each. -/
def PlannedDecision (env : Env) (s : Store) (d : Decision) : Prop :=
  ∃ analysis plan, s.analyses.get? (.analysis d.analysisId) = some analysis ∧
    planActions env d analysis = .ok plan ∧ actionsOf s d.decisionId = plan ∧
      ∀ a ∈ plan, a.status = .planned ∧ PlannedRows s a

/-- Every event is settled; the actions belong to stored Decisions, which are
planned if their event is processed and have none otherwise. -/
structure AllPlanned (env : Env) (s : Store) : Prop where
  settled : ∀ row ∈ s.outbox, row.Settled
  owned : ∀ a ∈ s.actions, ∃ d ∈ s.decisions, d.decisionId = a.decisionId
  drafts : DraftsOwned s
  planned : ∀ d ∈ s.decisions, Processed s d.decisionId → PlannedDecision env s d
  unplanned : ∀ d ∈ s.decisions, ¬Processed s d.decisionId → actionsOf s d.decisionId = []

theorem AllPlanned.empty : AllPlanned env Store.empty :=
  ⟨fun _ h => absurd h (Table.notMem_empty _), fun _ h => absurd h (Table.notMem_empty _),
    fun _ h => absurd h (Table.notMem_empty _), fun _ h => absurd h (Table.notMem_empty _),
    fun _ h => absurd h (Table.notMem_empty _)⟩

/-- The rows of the actions are as they were. -/
structure SameActions (s s' : Store) : Prop where
  actions : s'.actions = s.actions
  projections : s'.actionProjections = s.actionProjections
  events : s'.statusEvents = s.statusEvents
  drafts : s'.drafts = s.drafts

namespace SameActions

theorem refl (s : Store) : SameActions s s := ⟨rfl, rfl, rfl, rfl⟩

theorem trans {a b c : Store} (h : SameActions a b) (h' : SameActions b c) : SameActions a c :=
  ⟨h'.actions.trans h.actions, h'.projections.trans h.projections, h'.events.trans h.events,
    h'.drafts.trans h.drafts⟩

theorem actionsOf_eq (h : SameActions s s') (id : String) : actionsOf s' id = actionsOf s id := by
  unfold actionsOf
  rw [h.actions]

theorem plannedRows (h : SameActions s s') {a : ExecutionAction} (ha : PlannedRows s a) :
    PlannedRows s' a := by
  obtain ⟨uuid, hhistory⟩ := ha.history
  refine ⟨h.actions ▸ ha.action, h.projections ▸ ha.projection, ⟨uuid, ?_⟩, ?_⟩
  · unfold eventsOf at hhistory ⊢
    rw [h.events]
    exact hhistory
  · have hdraft := ha.draft
    unfold draftsOf at hdraft ⊢
    rw [h.drafts]
    exact hdraft

theorem plannedDecision (h : SameActions s s') (hg : Grows s s') {d : Decision}
    (hd : PlannedDecision env s d) : PlannedDecision env s' d := by
  obtain ⟨analysis, plan, hanalysis, hplan, hactions, hrows⟩ := hd
  exact ⟨analysis, plan, hg.analyses hanalysis, hplan, (h.actionsOf_eq _).trans hactions,
    fun a ha => (hrows a ha).imp_right h.plannedRows⟩

end SameActions

/-- The statements that write rows of actions. -/
def actionKinds : List WriteKind :=
  [.newAction, .newActionProjection, .countAttempt, .setAction, .newStatusEvent, .newDraft,
    .fillDraft]

theorem Writing.sameActions {kind : WriteKind} {v : Store} {l : List Key} {u : Store → Store}
    (h : Writing kind v l u) (hk : kind ∉ actionKinds) : SameActions v (u v) := by
  cases h
  case newAction => exact absurd (by decide) hk
  case newActionProjection => exact absurd (by decide) hk
  case countAttempt => exact absurd (by decide) hk
  case setAction => exact absurd (by decide) hk
  case newStatusEvent => exact absurd (by decide) hk
  case newDraft => exact absurd (by decide) hk
  case fillDraft => exact absurd (by decide) hk
  all_goals exact ⟨rfl, rfl, rfl, rfl⟩

theorem sameActions_of_commits {t : Transaction} {u : Unit}
    (hk : ∀ kind ∈ t.kinds, kind ∉ actionKinds) (hc : (t.program env).Commits s u s') :
    SameActions s s' :=
  relates_of_commits SameActions.refl SameActions.trans
    (fun hkind hw => hw.sameActions (hk _ hkind)) hc

/-- The events of the outbox: new and failed ones are pending, and the
processed ones are the same. -/
structure SameProcessed (s s' : Store) : Prop where
  settled : (∀ row ∈ s.outbox, row.Settled) → ∀ row ∈ s'.outbox, row.Settled
  kept : ∀ row ∈ s.outbox, row.processedAt.isSome → row ∈ s'.outbox
  old : ∀ row ∈ s'.outbox, row.processedAt.isSome → row ∈ s.outbox

theorem SameProcessed.of_eq (h : s'.outbox = s.outbox) : SameProcessed s s' :=
  ⟨fun hs row hrow => hs row (h ▸ hrow), fun _ hrow _ => h ▸ hrow, fun _ hrow _ => h ▸ hrow⟩

theorem SameProcessed.iff (h : SameProcessed s s') (id : String) :
    Processed s' id ↔ Processed s id :=
  ⟨fun ⟨row, hrow, hid, hp⟩ => ⟨row, h.old row hrow hp, hid, hp⟩,
    fun ⟨row, hrow, hid, hp⟩ => ⟨row, h.kept row hrow hp, hid, hp⟩⟩

/-- A transaction without actions: its Decisions are stored ones, or new. -/
theorem AllPlanned.of_same (hall : AllPlanned env s) (howned : Owned s) (hg : Grows s s')
    (hactions : SameActions s s') (hevents : SameProcessed s s')
    (hdecisions : ∀ d ∈ s'.decisions, d ∈ s.decisions ∨
      ∀ d' ∈ s.decisions, d'.decisionId ≠ d.decisionId) : AllPlanned env s' := by
  refine ⟨hevents.settled hall.settled, fun a ha => ?_, fun x hx => ?_, fun d hd hp => ?_,
    fun d hd hp => ?_⟩
  · obtain ⟨d, hd, hid⟩ := hall.owned a (hactions.actions ▸ ha)
    exact ⟨d, Table.mem_of_get? (hg.decisions (Table.get?_of_mem hd (List.mem_cons_self ..))), hid⟩
  · obtain ⟨a, ha, hid⟩ := hall.drafts x (hactions.drafts ▸ hx)
    exact ⟨a, hactions.actions ▸ ha, hid⟩
  · have hp' := (hevents.iff _).mp hp
    rcases hdecisions d hd with hd | hnew
    · exact hactions.plannedDecision hg (hall.planned d hd hp')
    · -- a new Decision has no event yet
      obtain ⟨row, hrow, hid, -⟩ := hp'
      obtain ⟨d', hd', hid'⟩ := howned.events row hrow
      exact absurd (hid'.trans hid) (hnew d' hd')
  · rw [hactions.actionsOf_eq]
    rcases hdecisions d hd with hd | hnew
    · exact hall.unplanned d hd fun hp' => hp ((hevents.iff _).mpr hp')
    · refine List.filter_eq_nil_iff.mpr fun a ha hid => ?_
      obtain ⟨d', hd', hid'⟩ := hall.owned a ha
      exact hnew d' hd' (hid'.trans (of_decide_eq_true hid))

/-! ### A plan -/

/-- `plan_actions`, except that it may also raise. -/
def IsPlanner (env : Env) (planner : ActionPlanner) : Prop :=
  ∀ d analysis, planner d analysis = planActions env d analysis ∨
    ∃ e, planner d analysis = .error e

theorem IsPlanner.plan_eq {planner : ActionPlanner} (h : IsPlanner env planner) {d : Decision}
    {analysis : AnalysisVersion} {actions : List ExecutionAction}
    (hplan : planner d analysis = .ok actions) : planActions env d analysis = .ok actions := by
  rcases h d analysis with heq | ⟨e, he⟩
  · rw [← heq, hplan]
  · rw [he] at hplan
    cases hplan

theorem actionsOf_append {actions : List ExecutionAction}
    (h : s'.actions.rows = s.actions.rows ++ actions) (id : String) :
    actionsOf s' id = actionsOf s id ++ actions.filter fun a => a.decisionId = id := by
  unfold actionsOf
  rw [h, List.filter_append]

namespace Plans

variable {planner : ActionPlanner} {claim : OutboxClaim} {d : Decision}
  {analysis : AnalysisVersion} {actions : List ExecutionAction}

/-- The planned Decision is a stored approval, and its event was pending. -/
theorem unprocessed (h : Plans s planner claim d analysis actions s') :
    d ∈ s.decisions ∧ d.kind = .approved ∧ ¬Processed s d.decisionId := by
  obtain ⟨filter, row, -, hrow, hready, hid, -⟩ := h.ready
  obtain ⟨now, processedAt, prow, s₁, s₂, hguard, -⟩ := h.effect
  refine ⟨Table.mem_of_get? (show s.decisions.get? _ = _ from hguard.stored), hguard.approved, ?_⟩
  rintro ⟨row', hrow', hid', hprocessed⟩
  have hget := Table.get?_of_mem (Table.mem_of_get? hrow) (k := .outboxDecision d.decisionId)
    (by simp [hid, h.decisionId])
  have hget' := Table.get?_of_mem hrow' (k := .outboxDecision d.decisionId) (by simp [hid'])
  obtain rfl := Option.some.inj (hget.symm.trans hget')
  rw [hready.2.1] at hprocessed
  cases hprocessed

/-- The row of the claim is claimed, and then processed. -/
theorem outbox_eq (h : Plans s planner claim d analysis actions s') :
    ∃ now processedAt, s'.outbox =
      (s.outbox.modify (.outbox claim.eventId) (OutboxRow.claimed now) (fun _ _ => rfl)).modify
        (.outbox claim.eventId) (OutboxRow.processed processedAt) (fun _ _ => rfl) := by
  obtain ⟨now, processedAt, prow, s₁, s₂, hguard, hins, -, heffect⟩ := h.effect
  have hsame : s₂.outbox = s.outbox.modify (.outbox claim.eventId) (OutboxRow.claimed now)
      (fun _ _ => rfl) := by
    rw [hins.frame, hguard.frame]
    rfl
  have hlast : s'.outbox = s₂.outbox.modify (.outbox claim.eventId)
      (OutboxRow.processed processedAt) (fun _ _ => rfl) := by
    rw [heffect]
    rfl
  exact ⟨now, processedAt, by rw [hlast, hsame]⟩

/-- The event of the claim is processed; the other events are as they were. -/
theorem outbox (h : Plans s planner claim d analysis actions s') :
    (∃ row ∈ s'.outbox, row.event.decisionId = d.decisionId ∧ row.processedAt.isSome ∧
      row.claimStatus = .processed) ∧
    (∀ row ∈ s.outbox, row.event.decisionId ≠ d.decisionId → row ∈ s'.outbox) ∧
    ∀ row ∈ s'.outbox, row.event.decisionId ≠ d.decisionId → row ∈ s.outbox := by
  obtain ⟨filter, row, -, hrow, -, hid, -⟩ := h.ready
  obtain ⟨now, processedAt, houtbox⟩ := h.outbox_eq
  have hne : ∀ x ∈ s.outbox, x.event.decisionId ≠ d.decisionId →
      Key.outbox claim.eventId ∉ keys x := by
    intro x hx hxid hkey
    obtain rfl := Option.some.inj ((Table.get?_of_mem hx hkey).symm.trans hrow)
    exact hxid (hid.trans h.decisionId.symm)
  refine ⟨⟨OutboxRow.processed processedAt (OutboxRow.claimed now row), ?_,
    hid.trans h.decisionId.symm, rfl, rfl⟩, fun x hx hxid => ?_, fun x hx hxid => ?_⟩
  · rw [houtbox]
    refine Table.mem_of_get? (k := .outbox claim.eventId) ?_
    rw [Table.get?_modify_self, Table.get?_modify_self, hrow]
    rfl
  · rw [houtbox, Table.mem_modify]
    refine ⟨x, Table.mem_modify.mpr ⟨x, hx, (if_neg (hne x hx hxid)).symm⟩, ?_⟩
    exact (if_neg (hne x hx hxid)).symm
  · rw [houtbox, Table.mem_modify] at hx
    obtain ⟨y, hy, rfl⟩ := hx
    obtain ⟨z, hz, rfl⟩ := Table.mem_modify.mp hy
    by_cases hkey : Key.outbox claim.eventId ∈ keys z
    · obtain rfl := Option.some.inj ((Table.get?_of_mem hz hkey).symm.trans hrow)
      simp only [if_pos hkey] at hxid
      split at hxid
      · exact absurd (hid.trans h.decisionId.symm) hxid
      · exact absurd (hid.trans h.decisionId.symm) hxid
    · simp only [if_neg hkey]
      exact hz

end Plans

/-- A committed plan stored all of it for a Decision without actions. -/
theorem AllPlanned.plans {planner : ActionPlanner} {claim : OutboxClaim} {d : Decision}
    {analysis : AnalysisVersion} {actions : List ExecutionAction} (hall : AllPlanned env s)
    (hplanner : IsPlanner env planner) (hg : Grows s s')
    (hdecisions : s'.decisions = s.decisions)
    (h : Plans s planner claim d analysis actions s') : AllPlanned env s' := by
  obtain ⟨hd, happroved, hpending⟩ := h.unprocessed
  obtain ⟨hprocessed, hkept, hold⟩ := h.outbox
  have hplan := hplanner.plan_eq h.plan
  obtain ⟨-, option, kinds, -, hkinds, hmap, hfor⟩ := planActions_spec env hplan
  have hempty := hall.unplanned d hd hpending
  obtain ⟨now, processedAt, prow, s₁, s₂, hguard, hins, -, heffect⟩ := h.effect
  have hbefore : SameActions s s₁ := by
    rw [hguard.frame]
    exact ⟨rfl, rfl, rfl, rfl⟩
  have hafter : SameActions s₂ s' := by
    rw [heffect]
    exact ⟨rfl, rfl, rfl, rfl⟩
  -- nothing of the plan is stored, so all of it is inserted
  have hnodup : actions.Nodup := List.Nodup.of_map ExecutionAction.kind
    (hmap ▸ actionKindsFor_nodup hkinds)
  have hnew : ∀ a ∈ actions, a ∉ s₁.actions := by
    intro a ha hmem
    rw [hbefore.actions] at hmem
    have hof : a ∈ actionsOf s d.decisionId :=
      List.mem_filter.mpr ⟨hmem, decide_eq_true (hfor a ha).1⟩
    rw [hempty] at hof
    cases hof
  have hdrafts : DraftsOwned s₁ := by
    unfold DraftsOwned
    rw [hbefore.drafts, hbefore.actions]
    exact hall.drafts
  obtain ⟨hrows, hplanned, howned, hkeep⟩ := hins.inserts hdrafts hnodup hnew
  rw [hbefore.actions] at hrows
  have hactions : s'.actions.rows = s.actions.rows ++ actions := by rw [hafter.actions, hrows]
  have hothers : ∀ id, id ≠ d.decisionId → actionsOf s' id = actionsOf s id := by
    intro id hid
    rw [actionsOf_append hactions, List.filter_eq_nil_iff.mpr, List.append_nil]
    exact fun a ha he => hid ((of_decide_eq_true he).symm.trans (hfor a ha).1)
  have hprocessed' : Processed s' d.decisionId := by
    obtain ⟨row, hrow, hid, hp, -⟩ := hprocessed
    exact ⟨row, hrow, hid, hp⟩
  have hiff : ∀ id, id ≠ d.decisionId → (Processed s' id ↔ Processed s id) := by
    intro id hne
    constructor
    · rintro ⟨row, hrow, rfl, hp⟩
      exact ⟨row, hold row hrow hne, rfl, hp⟩
    · rintro ⟨row, hrow, rfl, hp⟩
      exact ⟨row, hkept row hrow hne, rfl, hp⟩
  refine ⟨fun row hrow => ?_, fun a ha => ?_, fun x hx => ?_, fun d' hd' hp => ?_,
    fun d' hd' hp => ?_⟩
  · by_cases hid : row.event.decisionId = d.decisionId
    · obtain ⟨row', hrow', hid', hp, hstatus⟩ := hprocessed
      have hget := Table.get?_of_mem hrow (k := .outboxDecision d.decisionId) (by simp [hid])
      have hget' := Table.get?_of_mem hrow' (k := .outboxDecision d.decisionId) (by simp [hid'])
      obtain rfl := Option.some.inj (hget.symm.trans hget')
      exact .inr ⟨hp, hstatus⟩
    · exact hall.settled row (hold row hrow hid)
  · rw [Table.mem_def, hactions, List.mem_append] at ha
    rw [hdecisions]
    rcases ha with ha | ha
    · exact hall.owned a ha
    · exact ⟨d, hd, (hfor a ha).1.symm⟩
  · rw [hafter.drafts] at hx
    obtain ⟨a, ha, hid⟩ := howned x hx
    exact ⟨a, hafter.actions ▸ ha, hid⟩
  · rw [hdecisions] at hd'
    by_cases hid : d'.decisionId = d.decisionId
    · have hget := Table.get?_of_mem hd (k := .decision d.decisionId) (by simp)
      have hget' := Table.get?_of_mem hd' (k := .decision d.decisionId) (by simp [hid])
      obtain rfl := Option.some.inj (hget.symm.trans hget')
      refine ⟨analysis, actions, hg.analyses h.bound, hplan, ?_,
        fun a ha => ⟨(hfor a ha).2.2.1, hafter.plannedRows (hplanned a ha)⟩⟩
      rw [actionsOf_append hactions, hempty, List.nil_append, List.filter_eq_self]
      exact fun a ha => decide_eq_true (hfor a ha).1
    · obtain ⟨analysis', plan, hanalysis, hplan', hof, hall'⟩ :=
        hall.planned d' hd' ((hiff _ hid).mp hp)
      exact ⟨analysis', plan, hg.analyses hanalysis, hplan', (hothers _ hid).trans hof,
        fun a ha => (hall' a ha).imp_right fun hrows =>
          hafter.plannedRows (hkeep a (hbefore.plannedRows hrows))⟩
  · rw [hdecisions] at hd'
    have hid : d'.decisionId ≠ d.decisionId := fun he => hp (he ▸ hprocessed')
    rw [hothers _ hid]
    exact hall.unplanned d' hd' fun hp' => hp ((hiff _ hid).mpr hp')

/-! ### Failed attempts -/

/-- The recorded failure of a pending event. -/
structure FailsEvent (s : Store) (eventId code : String) (outbox : Table Key OutboxRow) : Prop where
  pending : ∃ row, s.outbox.get? (.outbox eventId) = some row ∧ row.processedAt = none
  effect : outbox = s.outbox.modify (.outbox eventId) (OutboxRow.failed code) (fun _ _ => rfl)

theorem FailsEvent.sameProcessed {eventId code : String} (h : FailsEvent s eventId code s'.outbox) :
    SameProcessed s s' := by
  obtain ⟨⟨row, hrow, hpending⟩, houtbox⟩ := h
  have hnot : ∀ x ∈ s.outbox, x.processedAt.isSome → Key.outbox eventId ∉ keys x := by
    intro x hx hp hkey
    obtain rfl := Option.some.inj ((Table.get?_of_mem hx hkey).symm.trans hrow)
    rw [hpending] at hp
    cases hp
  constructor
  · intro hs x hx
    rw [houtbox] at hx
    obtain ⟨y, hy, rfl⟩ := Table.mem_modify.mp hx
    by_cases hkey : Key.outbox eventId ∈ keys y
    · obtain rfl := Option.some.inj ((Table.get?_of_mem hy hkey).symm.trans hrow)
      rw [if_pos hkey]
      exact .inl ⟨hpending, rfl⟩
    · rw [if_neg hkey]
      exact hs y hy
  · intro x hx hp
    rw [houtbox]
    exact Table.mem_modify.mpr ⟨x, hx, (if_neg (hnot x hx hp)).symm⟩
  · intro x hx hp
    rw [houtbox] at hx
    obtain ⟨y, hy, rfl⟩ := Table.mem_modify.mp hx
    by_cases hkey : Key.outbox eventId ∈ keys y
    · obtain rfl := Option.some.inj ((Table.get?_of_mem hy hkey).symm.trans hrow)
      rw [if_pos hkey, show (OutboxRow.failed code y).processedAt = y.processedAt from rfl,
        hpending] at hp
      cases hp
    · rw [if_neg hkey]
      exact hy

theorem RecordsFailure.failsEvent {eventId code : String} (h : RecordsFailure s eventId code s') :
    FailsEvent s eventId code s'.outbox := by
  obtain ⟨row, hrow, hpending, -⟩ := h.row
  exact ⟨⟨row, hrow, hpending⟩, by rw [h.effect]; rfl⟩

/-- A guard changes the generation of the case of its Decision only: it moves
on by one under the independent policy, and stands still otherwise. -/
theorem Guarded.generation {d : Decision} (h : Guarded s d s') :
    (∀ k, k ≠ d.caseId →
      s'.projections.get? (.projection k) = s.projections.get? (.projection k)) ∧
    ∀ row', s'.projections.get? (.projection d.caseId) = some row' → ∃ row,
      s.projections.get? (.projection d.caseId) = some row ∧
        (row' = row ∨ row' = { row with proposalGeneration := row.proposalGeneration + 1 }) := by
  by_cases hp : d.approvalPolicyVersion = WorkflowVersion.independentFinance.value
  · obtain ⟨evidence, token, -, -, ⟨st, hready⟩, rfl⟩ := h.independent hp
    constructor
    · intro k hk
      unfold Store.cas
      rw [get?_modifyProjection, if_neg hk]
    · intro row' hrow'
      obtain ⟨row, hrow, hshows, -⟩ := hready.state.row
      rw [hready.token] at hshows
      rw [get?_cas_self, hrow] at hrow'
      obtain rfl := Option.some.inj hrow'
      refine ⟨row, hrow, .inr ?_⟩
      rw [← hshows.2.2.2, hshows.1]
      rfl
  · rw [h.legacy hp]
    exact ⟨fun _ _ => rfl, fun row' hrow' => ⟨row', hrow', .inl rfl⟩⟩

/-- The trace of a failed attempt on a claim: attempt count, error and claim of
the claimed event, which was pending; the status of its case and, for an
independent case, its generation; no other column and no other row. -/
structure OnlyFails (s : Store) (claim : OutboxClaim) (code : String) (s' : Store) : Prop where
  rest : s' = { s with outbox := s'.outbox, projections := s'.projections }
  event : FailsEvent s claim.eventId code s'.outbox
  others : ∀ k, k ≠ claim.caseId →
    s'.projections.get? (.projection k) = s.projections.get? (.projection k)
  case : ∃ case row generation, s.cases.get? (.case claim.caseId) = some case ∧
    s.projections.get? (.projection claim.caseId) = some row ∧
    s'.projections.get? (.projection claim.caseId) = some { row with
      case := row.case.withStatus .actionPlanning, proposalGeneration := generation } ∧
    (generation = row.proposalGeneration ∨
      case.effectiveWorkflowVersion = .independentFinance ∧
        generation = row.proposalGeneration + 1)

/-- A recovery writes the events and the projections, and of the events the
claimed one. -/
theorem Recovers.failsEvent {claim : OutboxClaim} {code : String} (h : Recovers s claim code s') :
    s' = { s with outbox := s'.outbox, projections := s'.projections } ∧
      FailsEvent s claim.eventId code s'.outbox := by
  obtain ⟨case, hcase⟩ := h.case
  by_cases hi : case.effectiveWorkflowVersion = .independentFinance
  · obtain ⟨d, s₁, s₂, row, -, hguard, hfailure, -, rfl⟩ := h.independent case hcase hi
    obtain ⟨t, rfl⟩ := hguard.effect
    have hevent := hfailure.failsEvent
    rw [hfailure.effect] at hevent ⊢
    exact ⟨rfl, hevent.pending, rfl⟩
  · obtain ⟨s₁, row, hfailure, -, rfl⟩ := h.legacy case hcase hi
    have hevent := hfailure.failsEvent
    rw [hfailure.effect] at hevent ⊢
    exact ⟨rfl, hevent.pending, rfl⟩

/-- The claim is of its Decision's case. -/
def OutboxClaim.OfCase (s : Store) (claim : OutboxClaim) : Prop :=
  ∃ d, s.decisions.get? (.decision claim.decisionId) = some d ∧ d.caseId = claim.caseId

/-- A claim that was taken at any time is of its Decision's case ever after. -/
theorem OutboxClaim.OfCase.of_candidate {s₀ : Store} {filter : OutboxFilter} {claim : OutboxClaim}
    (h : outboxCandidate s₀ filter = some claim) (hg : Grows s₀ s) : claim.OfCase s := by
  obtain ⟨_, d, _, -, -, -, -, hd, hcase, -⟩ := outboxCandidate_spec h
  exact ⟨d, hg.decisions hd, hcase⟩

/-- A recovery also sets the status of the claimed case and, behind a guard, its
generation. -/
theorem Recovers.onlyFails {claim : OutboxClaim} {code : String} (h : Recovers s claim code s')
    (hclaim : claim.OfCase s) : OnlyFails s claim code s' := by
  obtain ⟨hrest, hevent⟩ := h.failsEvent
  obtain ⟨case, hcase⟩ := h.case
  by_cases hi : case.effectiveWorkflowVersion = .independentFinance
  · obtain ⟨d, s₁, s₂, row, hid, hguard, -, hrow, rfl⟩ := h.independent case hcase hi
    obtain ⟨d', hd', hcaseId⟩ := hclaim
    have hstored := hguard.stored
    rw [hid, hd'] at hstored
    obtain rfl := Option.some.inj hstored
    obtain ⟨hothers, hself⟩ := hguard.generation
    obtain ⟨row₀, hrow₀, hrows⟩ := hself row hrow
    refine ⟨hrest, hevent, fun k hk => ?_, ?_⟩
    · rw [get?_modifyProjection, if_neg (hcaseId ▸ hk)]
      exact hothers k (hcaseId ▸ hk)
    · rw [← hcaseId] at hcase ⊢
      have hnew : (s₁.projections.modify (.projection d'.caseId)
          (fun r => { r with case := row.case.withStatus .actionPlanning })
          (fun _ _ => rfl)).get? (.projection d'.caseId) =
            some { row with case := row.case.withStatus .actionPlanning } := by
        rw [Table.get?_modify_self, hrow]
        rfl
      rcases hrows with rfl | rfl
      · exact ⟨case, row, row.proposalGeneration, hcase, hrow₀, hnew, .inl rfl⟩
      · exact ⟨case, row₀, row₀.proposalGeneration + 1, hcase, hrow₀, hnew, .inr ⟨hi, rfl⟩⟩
  · obtain ⟨s₁, row, -, hrow, rfl⟩ := h.legacy case hcase hi
    refine ⟨hrest, hevent, fun k hk => ?_, case, row, row.proposalGeneration, hcase, hrow, ?_,
      .inl rfl⟩
    · rw [get?_modifyProjection, if_neg hk]
    · rw [Table.get?_modify_self, hrow]
      rfl

/-! ### Runs -/

/-- The statements that write events. -/
def eventKinds : List WriteKind := [.newEvent, .claimEvent, .processEvent, .failEvent]

theorem Writing.outbox_eq {kind : WriteKind} {v : Store} {l : List Key} {u : Store → Store}
    (h : Writing kind v l u) (hk : kind ∉ eventKinds) : (u v).outbox = v.outbox := by
  cases h
  case newEvent => exact absurd (by decide) hk
  case claimEvent => exact absurd (by decide) hk
  case processEvent => exact absurd (by decide) hk
  case failEvent => exact absurd (by decide) hk
  all_goals rfl

theorem outbox_of_commits {t : Transaction} {u : Unit} (hk : ∀ kind ∈ t.kinds, kind ∉ eventKinds)
    (hc : (t.program env).Commits s u s') : s'.outbox = s.outbox :=
  relates_of_commits (R := fun s s' => s'.outbox = s.outbox) (fun _ => rfl)
    (fun h h' => h'.trans h) (fun hkind hw => hw.outbox_eq (hk _ hkind)) hc

/-- The transactions up to the plan: all but those of the execution, with a
planner as above. -/
def Transaction.Planning (env : Env) : Transaction → Prop
  | createCase .. | saveCaseProjection .. | saveAnalysis .. | insertClaim .. | takeOverClaim ..
  | releaseAnalysisClaim .. | completeAnalysisClaim .. | submit .. | resolve .. | finalize ..
  | record .. | eventOnlyFailure .. | recoverFailure .. => True
  | processOutbox planner .. => IsPlanner env planner
  | _ => False

/-- A commit of such a transaction. -/
def PlanningStep (env : Env) (s s' : Store) : Prop :=
  ∃ (t : Transaction) (u : Unit), t.Planning env ∧ (t.program env).Commits s u s'

abbrev PlanningRun (env : Env) : Store → Store → Prop :=
  Relation.ReflTransGen (PlanningStep env)

/-- The event of a new Decision is pending. -/
theorem Journals.sameProcessed {d : Decision} (h : Journals env s d s') : SameProcessed s s' := by
  obtain ⟨row, satisfactions, outbox, -, happroved, hrejected, rfl⟩ := h.stores.effect
  rcases hk : d.kind
  · obtain ⟨eventId, hfree, rfl⟩ := happroved hk
    refine ⟨fun hs x hx => ?_, fun x hx _ => Table.mem_add_of_mem hx, fun x hx hp => ?_⟩
    · rcases (Table.mem_add hfree).mp hx with hx | rfl
      · exact hs x hx
      · exact .inl ⟨rfl, rfl⟩
    · rcases (Table.mem_add hfree).mp hx with hx | rfl
      · exact hx
      · cases hp
  · exact .of_eq (hrejected hk)

theorem allPlanned_step (hall : AllPlanned env s) (hstore : AllIntact env s)
    {t : Transaction} {u : Unit} (ht : t.Planning env) (hc : (t.program env).Commits s u s') :
    AllPlanned env s' := by
  have hg := grows_of_commits hc
  have hquiet : WriteKind.newDecision ∉ t.kinds → (∀ kind ∈ t.kinds, kind ∉ actionKinds) →
      SameProcessed s s' → AllPlanned env s' := by
    intro hdecisions hactions hevents
    refine hall.of_same hstore.owned hg (sameActions_of_commits hactions hc) hevents fun d hd => ?_
    exact .inl (decisions_of_commits hdecisions hc ▸ hd)
  have hunplanned : WriteKind.newDecision ∉ t.kinds → (∀ kind ∈ t.kinds, kind ∉ actionKinds) →
      (∀ kind ∈ t.kinds, kind ∉ eventKinds) → AllPlanned env s' :=
    fun hdecisions hactions hevents =>
      hquiet hdecisions hactions (.of_eq (outbox_of_commits hevents hc))
  cases t
  case finalize command actor decisionUuid eventUuid clock =>
    obtain ⟨d, hcommits⟩ := commits_effect.mp hc
    have hf := returns_finalizeTransaction env hcommits
    obtain ⟨s₁, hj, hdecisions, -, houtbox⟩ := hf.journals
    have hactions : SameActions s s' :=
      sameActions_of_commits (by dsimp only [Transaction.kinds]; decide) hc
    have hevents := hj.sameProcessed
    refine hall.of_same hstore.owned hg hactions
      ⟨houtbox ▸ hevents.settled, houtbox ▸ hevents.kept, houtbox ▸ hevents.old⟩ fun x hx => ?_
    rcases hdecisions ▸ hj.stores.mem hx with hx | rfl
    · exact .inl hx
    · exact .inr fun d' hd' => decisionId_ne (hf.free env) hd'
  case record command actor decisionUuid eventUuid decidedAt =>
    obtain ⟨d, hcommits⟩ := commits_effect.mp hc
    have hj := (returns_recordTransaction env hcommits).journals
    have hactions : SameActions s s' :=
      sameActions_of_commits (by dsimp only [Transaction.kinds]; decide) hc
    refine hall.of_same hstore.owned hg hactions hj.sameProcessed fun x hx => ?_
    rcases hj.stores.mem hx with hx | rfl
    · exact .inl hx
    · exact .inr fun d' hd' => decisionId_ne hj.stores.free hd'
  case processOutbox planner filter eventUuid processedAt =>
    obtain ⟨_, hcommits⟩ := commits_effect.mp hc
    obtain ⟨claim, d, analysis, actions, -, -, hp⟩ := returns_processTransaction env hcommits
    refine hall.plans ht hg (decisions_of_commits ?_ hc) hp
    dsimp only [Transaction.kinds]
    decide
  case eventOnlyFailure claim code now =>
    obtain ⟨_, hcommits⟩ := commits_effect.mp hc
    exact hquiet (by dsimp only [Transaction.kinds]; decide)
      (by dsimp only [Transaction.kinds]; decide)
      (returns_eventOnlyTransaction hcommits).failsEvent.sameProcessed
  case recoverFailure claim error now =>
    obtain ⟨_, hcommits⟩ := commits_effect.mp hc
    exact hquiet (by dsimp only [Transaction.kinds]; decide)
      (by dsimp only [Transaction.kinds]; decide)
      (returns_recoveryTransaction env hcommits).failsEvent.2.sameProcessed
  all_goals first
    | exact absurd ht id
    | exact hunplanned (by dsimp only [Transaction.kinds]; decide)
        (by dsimp only [Transaction.kinds]; decide) (by dsimp only [Transaction.kinds]; decide)

theorem allPlanned_of_run (h : PlanningRun env Store.empty s) :
    AllIntact env s ∧ AllPlanned env s := by
  induction h with
  | refl => exact ⟨.empty, .empty⟩
  | tail _ hstep ih =>
    obtain ⟨t, u, ht, hc⟩ := hstep
    exact ⟨allIntact_step ih.1 hc, allPlanned_step ih.2 ih.1 ht hc⟩

/-- The rows of processed events are never written again. -/
structure KeepsProcessed (s s' : Store) : Prop where
  kept : ∀ row ∈ s.outbox, row.processedAt.isSome → row ∈ s'.outbox

theorem keepsProcessed_modify {eventId : String} {row : OutboxRow} {f : OutboxRow → OutboxRow}
    {hf : ∀ r, Key.outbox eventId ∈ keys r → keys (f r) = keys r}
    (hrow : s.outbox.get? (.outbox eventId) = some row) (hp : row.processedAt = none) :
    KeepsProcessed s (s.modifyOutbox eventId f hf) := by
  refine ⟨fun x hx hsome => ?_⟩
  show x ∈ s.outbox.modify (.outbox eventId) f hf
  refine Table.mem_modify.mpr ⟨x, hx, (if_neg fun hkey => ?_).symm⟩
  obtain rfl := Option.some.inj ((Table.get?_of_mem hx hkey).symm.trans hrow)
  rw [hp] at hsome
  cases hsome

theorem Writing.keepsProcessed {kind : WriteKind} {v : Store} {l : List Key} {u : Store → Store}
    (h : Writing kind v l u) : KeepsProcessed v (u v) := by
  cases h
  case newEvent event hfree => exact ⟨fun x hx _ => Table.mem_add_of_mem hx⟩
  case claimEvent row eventId filter hready hrow => exact keepsProcessed_modify hrow hready.2.1
  case processEvent row eventId now hclaimed hrow => exact keepsProcessed_modify hrow hclaimed.2
  case failEvent row eventId code hlive hrow => exact keepsProcessed_modify hrow hlive.1
  all_goals exact ⟨fun _ hx _ => hx⟩

theorem Run.keepsProcessed (h : Run (Transaction.program env) s s') : KeepsProcessed s s' := by
  have trans : ∀ {a b c : Store}, KeepsProcessed a b → KeepsProcessed b c → KeepsProcessed a c :=
    fun h h' => ⟨fun row hrow hp => h'.kept row (h.kept row hrow hp) hp⟩
  have refl : ∀ s, KeepsProcessed s s := fun _ => ⟨fun _ hrow _ => hrow⟩
  exact h.relates refl trans fun ⟨_, _, hc⟩ =>
    relates_of_commits refl trans (fun _ hw => hw.keepsProcessed) hc

theorem PlanningRun.run (h : PlanningRun env s s') : Run (Transaction.program env) s s' := by
  induction h with
  | refl => exact .refl
  | tail _ hstep ih =>
    obtain ⟨t, u, -, hc⟩ := hstep
    exact ih.tail ⟨t, u, hc⟩

/-- An attempt that does not plan leaves its transaction without effect. -/
theorem processTransaction_fails {planner : ActionPlanner} {filter : OutboxFilter}
    {eventUuid : Nat → String} {processedAt : Instant} {r : Except Raised WorkerOutcome}
    (h : (processTransaction env planner filter eventUuid processedAt).transact s = (r, s'))
    (hr : ∀ d analysis actions, r ≠ .ok (.planned d analysis actions)) : s' = s := by
  rcases (processTransaction env planner filter eventUuid processedAt).transact_cases s with
    heq | ⟨outcome, hc⟩
  · rwa [h] at heq
  · obtain ⟨claim, d, analysis, actions, rfl, -⟩ := returns_processTransaction env hc
    have hok := transact_of_commits hc
    rw [h] at hok
    exact absurd (congrArg Prod.fst hok) (hr d analysis actions)

/-- Planning from the outbox is exactly once, and all or nothing: a claim is
never committed, an approval has its one event and all of its plan or nothing,
is planned once, and a rejection has neither; a failed attempt on a claim leaves
its count, error and claim with the claimed event, and the status and generation
of its case. -/
theorem planned_exactly_once (h : PlanningRun env Store.empty s) :
    (∀ row ∈ s.outbox, row.Settled) ∧
    (∀ d ∈ s.decisions, d.kind = .approved →
      ∃ row, (row ∈ s.outbox ∧ row.event.decisionId = d.decisionId) ∧
        (∀ row' ∈ s.outbox, row'.event.decisionId = d.decisionId → row' = row) ∧
        (row.processedAt = none → actionsOf s d.decisionId = []) ∧
        (row.processedAt.isSome → PlannedDecision env s d)) ∧
    (∀ d ∈ s.decisions, d.kind = .rejected →
      (∀ row ∈ s.outbox, row.event.decisionId ≠ d.decisionId) ∧
        actionsOf s d.decisionId = []) ∧
    (∀ planner filter eventUuid processedAt d analysis actions s₁,
      (processTransaction env planner filter eventUuid processedAt).Commits s
        (.planned d analysis actions) s₁ →
      ¬Processed s d.decisionId ∧ Processed s₁ d.decisionId ∧
        ∀ s₂, PlanningRun env s₁ s₂ → Processed s₂ d.decisionId) ∧
    (∀ planner filter eventUuid processedAt r s₁,
      (processTransaction env planner filter eventUuid processedAt).transact s = (r, s₁) →
      (∀ d analysis actions, r ≠ .ok (.planned d analysis actions)) → s₁ = s) ∧
    ∀ s₀ filter claim, outboxCandidate s₀ filter = some claim → PlanningRun env s₀ s →
      (∀ error now outcome s₁, (recoveryTransaction env claim error now).Commits s outcome s₁ →
        OnlyFails s claim (errorCode error) s₁) ∧
      ∀ code now b s₁, (eventOnlyTransaction claim code now).Commits s b s₁ →
        RecordsFailure s claim.eventId code s₁ := by
  obtain ⟨hstore, hall⟩ := allPlanned_of_run h
  refine ⟨hall.settled, fun d hd hk => ?_, fun d hd hk => ?_, ?_, ?_, ?_⟩
  · obtain ⟨row, hrow, hunique⟩ := (hstore.intact d hd).event_unique hk
    refine ⟨row, hrow, fun row' hrow' hid' => hunique row' ⟨hrow', hid'⟩, fun hp => ?_, fun hp => ?_⟩
    · refine hall.unplanned d hd ?_
      rintro ⟨row', hrow', hid', hp'⟩
      rw [hunique row' ⟨hrow', hid'⟩, hp] at hp'
      cases hp'
    · exact hall.planned d hd ⟨row, hrow.1, hrow.2, hp⟩
  · have hnone := (hstore.intact d hd).event_none hk
    exact ⟨hnone, hall.unplanned d hd fun ⟨row, hrow, hid, _⟩ => hnone row hrow hid⟩
  · intro planner filter eventUuid processedAt d analysis actions s₁ hc
    obtain ⟨claim, d', analysis', actions', heq, -, hp⟩ := returns_processTransaction env hc
    obtain ⟨rfl, rfl, rfl⟩ := WorkerOutcome.planned.inj heq
    obtain ⟨⟨row, hrow, hid, hprocessed, -⟩, -⟩ := hp.outbox
    refine ⟨hp.unprocessed.2.2, ⟨row, hrow, hid, hprocessed⟩, fun s₂ hlater => ?_⟩
    exact ⟨row, (Run.keepsProcessed hlater.run).kept row hrow hprocessed, hid, hprocessed⟩
  · exact fun planner filter eventUuid processedAt r s₁ => processTransaction_fails
  · intro s₀ filter claim hclaim hrun
    refine ⟨fun error now outcome s₁ hc => ?_, fun code now b s₁ hc => ?_⟩
    · exact (returns_recoveryTransaction env hc).onlyFails (.of_candidate hclaim (Run.grows hrun.run))
    · exact returns_eventOnlyTransaction hc

/-- A list of transactions up to the plan. -/
theorem PlanningRun.history {ts : List Transaction} (h : ∀ t ∈ ts, t.Planning env) (s : Store) :
    PlanningRun env s (history (Transaction.program env) ts s) := by
  induction ts generalizing s with
  | nil => exact .refl
  | cons t ts ih =>
    have hrest := ih (fun t' ht' => h t' (List.mem_cons_of_mem _ ht')) ((t.program env).transact s).2
    rcases (t.program env).transact_cases s with heq | ⟨u, hc⟩
    · show PlanningRun env s (Transact.history _ ts ((t.program env).transact s).2)
      rw [heq] at hrest ⊢
      exact hrest
    · exact .head ⟨t, u, h t (List.mem_cons_self ..), hc⟩ hrest

/-- The sample case, with the plan of its approval. -/
def samplePlanning : List Transaction :=
  sampleTransactions ++
    [.processOutbox (planActions sampleEnv) ⟨1, none, true, none⟩ (fun n => toString n) 1]

theorem samplePlanning_run :
    PlanningRun sampleEnv Store.empty
      (history (Transaction.program sampleEnv) samplePlanning Store.empty) := by
  refine .history (fun t ht => ?_) _
  simp only [samplePlanning, sampleTransactions, List.cons_append, List.nil_append, List.mem_cons,
    List.not_mem_nil, or_false] at ht
  rcases ht with rfl | rfl | rfl | rfl | rfl | rfl
  case inr.inr.inr.inr.inr => exact fun _ _ => .inl rfl
  all_goals exact trivial

/-- The claim of the approval of the sample case. -/
def sampleClaim : OutboxClaim := ⟨"RL-OUTBOX-1", "RL-DECISION-1", "case", "analysis"⟩

theorem sampleTransactions_run :
    PlanningRun sampleEnv Store.empty
      (history (Transaction.program sampleEnv) sampleTransactions Store.empty) := by
  refine .history (fun t ht => ?_) _
  simp only [sampleTransactions, List.mem_cons, List.not_mem_nil, or_false] at ht
  rcases ht with rfl | rfl | rfl | rfl | rfl <;> exact trivial

theorem sampleClaim_taken :
    outboxCandidate (history (Transaction.program sampleEnv) sampleTransactions Store.empty)
      ⟨1, none, true, none⟩ = some sampleClaim := by
  decide +kernel

/-- The approval of the sample case has its plan; had its attempt failed, the
recovery would have left its trace with the event and the case. -/
theorem planned_exactly_once_sample :
    (∃ s d, d ∈ s.decisions ∧ d.kind = .approved ∧ PlannedDecision sampleEnv s d) ∧
      ∃ s outcome s₁, (recoveryTransaction sampleEnv sampleClaim
          ⟨.plannerError "ValueError", ""⟩ 1).Commits s outcome s₁ ∧
        OnlyFails s sampleClaim (errorCode ⟨.plannerError "ValueError", ""⟩) s₁ := by
  have hstate : (match history (Transaction.program sampleEnv) samplePlanning Store.empty with
      | s => s.outbox.rows.all (fun row => row.processedAt.isSome) &&
        s.decisions.rows.any (fun d => d.kind = .approved)) = true := by
    decide +kernel
  have hrecovers : (recoveryTransaction sampleEnv sampleClaim
      ⟨.plannerError "ValueError", ""⟩ 1).checkCommitted
        (history (Transaction.program sampleEnv) sampleTransactions Store.empty)
          (fun _ _ => true) = true := by
    decide +kernel
  constructor
  · obtain ⟨hstate, hdecision⟩ := Bool.and_eq_true_iff.mp hstate
    obtain ⟨d, hd, hk⟩ := List.any_eq_true.mp hdecision
    obtain ⟨-, happroved, -⟩ := planned_exactly_once samplePlanning_run
    obtain ⟨row, ⟨hrow, -⟩, -, -, hplanned⟩ := happroved d hd (of_decide_eq_true hk)
    exact ⟨_, d, hd, of_decide_eq_true hk, hplanned (List.all_eq_true.mp hstate row hrow)⟩
  · obtain ⟨outcome, s₁, hcommits, -⟩ := exists_of_checkCommitted hrecovers
    obtain ⟨-, -, -, -, -, hfails⟩ := planned_exactly_once sampleTransactions_run
    exact ⟨_, outcome, s₁, hcommits,
      (hfails _ _ _ sampleClaim_taken .refl).1 _ _ _ _ hcommits⟩

/-- The recovery of an independent case passes a guard, and with it moves the
generation of the case. -/
theorem recovery_moves_generation :
    ∃ s s' row row' outcome, PlanningRun sampleEnv Store.empty s ∧
      (recoveryTransaction sampleEnv sampleClaim ⟨.plannerError "ValueError", ""⟩ 1).Commits s
        outcome s' ∧
      s.projections.get? (.projection "case") = some row ∧
      s'.projections.get? (.projection "case") = some row' ∧
      row'.proposalGeneration ≠ row.proposalGeneration := by
  have hmoves : (recoveryTransaction sampleEnv sampleClaim
      ⟨.plannerError "ValueError", ""⟩ 1).checkCommitted
        (history (Transaction.program sampleEnv) sampleTransactions Store.empty) (fun _ s' =>
          decide (((history (Transaction.program sampleEnv) sampleTransactions
            Store.empty).projections.get? (.projection "case")).map
              CaseProjectionRow.proposalGeneration = some 4) &&
          decide ((s'.projections.get? (.projection "case")).map
            CaseProjectionRow.proposalGeneration = some 5)) = true := by
    decide +kernel
  obtain ⟨outcome, s', hrun, hmoves⟩ := exists_of_checkCommitted hmoves
  obtain ⟨hbefore, hafter⟩ := Bool.and_eq_true_iff.mp hmoves
  obtain ⟨row, hrow, hfour⟩ := Option.map_eq_some_iff.mp (of_decide_eq_true hbefore)
  obtain ⟨row', hrow', hfive⟩ := Option.map_eq_some_iff.mp (of_decide_eq_true hafter)
  refine ⟨_, s', row, row', outcome, sampleTransactions_run, hrun, hrow, hrow', ?_⟩
  rw [hfour, hfive]
  decide

end SupplyResponse
