/-
The retention of presenter cases deletes exactly the pruned aggregates.

A row goes with the case that it belongs to (`BelongsToCase`), which the schema
knows through its foreign keys and the deletions through OR-ed subqueries.

* `aggregatePredicate_iff` — both are the same where every row has one case;
* `returns_deleteTables` — table after table in the order of the source, whose
  subqueries still find the rows they need, and no key is violated;
* `NewestFirst` — the eligible cases in the order in which they are retained;
* `presenterRetention_exact` — the two units of work.
-/
import SupplyResponse.Numbers.Sorting
import SupplyResponse.Persistence.PresenterRuns
import SupplyResponse.Runs.Transactions
import Mathlib.Data.Prod.Lex
import Mathlib.Data.String.Basic

namespace SupplyResponse

open Transact Transact.Prog

variable {db db' : PresenterDatabase} {t : TableName} {row : PresenterRow} {caseIds : List String}

/-! ### Statements -/

theorem returns_insertPresenterRow {u : Unit} :
    (insertPresenterRow t row).Returns db u db' ↔
      Admits presenterSchema db t row ∧ db' = db.insert t row := by
  unfold insertPresenterRow
  show (require _ _ : Connection Unit).Returns _ _ _ ↔ _
  rw [returns_require]
  constructor
  · rintro ⟨hadmits, rfl⟩
    exact ⟨hadmits, if_pos hadmits⟩
  · rintro ⟨hadmits, rfl⟩
    exact ⟨hadmits, (if_pos hadmits).symm⟩

theorem returns_deleteWhere {p : PresenterDatabase → PresenterRow → Bool} {n : ℕ} :
    (deleteWhere t p).Returns db n db' ↔
      Unreferenced presenterSchema.foreignKeys db t (p db) ∧ n = (db t).countP (p db) ∧
        db' = db.delete t (p db) := by
  show (ite _ _ _ : Connection ℕ).Returns _ _ _ ↔ _
  by_cases h : Unreferenced presenterSchema.foreignKeys db t (p db)
  · simp only [h, if_true, returns_done, true_and]
  · simp only [h, if_false, false_and, iff_false]
    exact returns_raise

theorem returns_setNullWhere {c : Column} {p : PresenterDatabase → PresenterRow → Bool} {u : Unit} :
    (setNullWhere t c p).Returns db u db' ↔ db' = db.nullify t c (p db) := by
  show (Prog.done () : Connection Unit).Returns _ _ _ ↔ _
  simp

/-! ### Whom the predicates select -/

theorem cellIn_eq_true {c : Column} {values : List Value} :
    cellIn row c values = true ↔ ∃ v ∈ values, row.cell c = some v := by
  unfold cellIn
  rw [Option.any_eq_true]
  constructor
  · rintro ⟨v, hv, hmem⟩
    exact ⟨v, of_decide_eq_true hmem, hv⟩
  · rintro ⟨v, hmem, hv⟩
    exact ⟨v, hv, decide_eq_true hmem⟩

theorem mem_selectIds {parent : TableName} {key : Column} {v : Value} :
    v ∈ selectIds db parent key caseIds ↔
      ∃ row ∈ db parent, cellIn row .caseId (caseIds.map .text) = true ∧ row.cell key = some v := by
  unfold selectIds
  simp only [List.mem_filterMap, List.mem_filter, and_assoc]

/-- A key column of a deletion is the case, or a foreign key of the table to the
parent of the subquery. -/
theorem aggregateKeys_refer (t : TableName) : ∀ key ∈ aggregateKeys t,
    (aggregateParent key = none → key = .caseId) ∧
      ∀ parent ∈ aggregateParent key,
        (⟨t, [(key, key)], parent⟩ : ForeignKey TableName Column) ∈ presenterSchema.foreignKeys := by
  cases t <;> decide

/-- Every table has a key column that is never NULL. -/
theorem exists_aggregateKey (t : TableName) :
    ∃ key ∈ aggregateKeys t, key ∈ t.columns ∧ key ∉ t.nullable := by
  cases t <;> decide

/-- A table with a `case_id` deletes by it. -/
theorem caseId_mem_aggregateKeys (t : TableName) (h : Column.caseId ∈ t.columns) :
    Column.caseId ∈ aggregateKeys t ∧ Column.caseId ∉ t.nullable := by
  revert h
  cases t <;> decide

/-- The parents of the subqueries have a `case_id`. -/
theorem aggregateParent_caseId (key : Column) :
    ∀ parent ∈ aggregateParent key, Column.caseId ∈ parent.columns := by
  cases key <;> decide

theorem aggregatePredicate_eq_true :
    aggregatePredicate caseIds t db row = true ↔
      ∃ key ∈ aggregateKeys t, ∃ v ∈ predicateValues db caseIds key, row.cell key = some v := by
  unfold aggregatePredicate
  simp only [List.any_eq_true, cellIn_eq_true]

/-- A row that has a `case_id` is selected by it. -/
theorem aggregatePredicate_of_caseId (hcolumn : Column.caseId ∈ t.columns) {caseId : String}
    (hcase : caseId ∈ caseIds) (hrow : row.cell .caseId = some (.text caseId)) :
    aggregatePredicate caseIds t db row = true :=
  aggregatePredicate_eq_true.mpr ⟨.caseId, (caseId_mem_aggregateKeys t hcolumn).1, .text caseId,
    List.mem_map.mpr ⟨caseId, hcase, rfl⟩, hrow⟩

/-- The row belongs to one of the cases. -/
def BelongsToCases (db : PresenterDatabase) (caseIds : List String) (t : TableName)
    (row : PresenterRow) : Prop :=
  ∃ caseId ∈ caseIds, BelongsToCase db t row caseId

theorem belongsToCases_iff : BelongsToCases db caseIds t row ↔
    ∃ v ∈ caseIds.map Value.text, BelongsTo presenterSchema.foreignKeys .caseId db t row v := by
  unfold BelongsToCases
  simp

/-- The deletions select the rows that belong to the cases. -/
theorem aggregatePredicate_iff (h : presenterSchema.Holds db) (hl : CaseLineage db)
    (hrow : row ∈ db t) :
    aggregatePredicate caseIds t db row = true ↔ BelongsToCases db caseIds t row := by
  rw [belongsToCases_iff]
  have hshape := h.shaped t row hrow
  constructor
  · -- a key in a subquery is a reference to a row of the case
    intro hp
    obtain ⟨key, hkey, v, hv, hcell⟩ := aggregatePredicate_eq_true.mp hp
    obtain ⟨hnone, hsome⟩ := aggregateKeys_refer t key hkey
    unfold predicateValues at hv
    split at hv
    · next parent hparent =>
      obtain ⟨prow, hprow, hcase, hpv⟩ := mem_selectIds.mp hv
      obtain ⟨w, hw, hpcase⟩ := cellIn_eq_true.mp hcase
      have hrefers : (⟨t, [(key, key)], parent⟩ : ForeignKey TableName Column).Refers row prow := by
        intro c hc
        obtain rfl := List.mem_singleton.mp hc
        exact ⟨by rw [hcell]; exact Option.some_ne_none v, hcell.trans hpv.symm⟩
      exact ⟨w, hw, .parent (hsome parent hparent) hprow hrefers (.own hpcase)⟩
    · next hparent =>
      obtain rfl := hnone hparent
      exact ⟨v, hv, .own hcell⟩
  · -- the case of the row is that of each of its keys
    rintro ⟨w, hw, hb⟩
    obtain ⟨key, hkey, hcolumn, hnotnull⟩ := exists_aggregateKey t
    obtain ⟨hnone, hsome⟩ := aggregateKeys_refer t key hkey
    obtain ⟨v, hcell⟩ := Option.ne_none_iff_exists'.mp (hshape.1 key hcolumn hnotnull)
    refine aggregatePredicate_eq_true.mpr ⟨key, hkey, v, ?_, hcell⟩
    unfold predicateValues
    split
    · next parent hparent =>
      have hfk := hsome parent hparent
      have hset : (⟨t, [(key, key)], parent⟩ : ForeignKey TableName Column).Set row := by
        intro c hc
        obtain rfl := List.mem_singleton.mp hc
        rw [hcell]
        exact Option.some_ne_none v
      obtain ⟨prow, hprow, hrefers⟩ := h.refers _ hfk row hrow hset
      have hpv : prow.cell key = some v :=
        (hrefers _ (List.mem_singleton.mpr rfl)).2.symm.trans hcell
      have hpcolumn := aggregateParent_caseId key parent hparent
      obtain ⟨u, hpcase⟩ := Option.ne_none_iff_exists'.mp
        ((h.shaped parent prow hprow).1 .caseId hpcolumn (caseId_mem_aggregateKeys _ hpcolumn).2)
      have hsame : u = w := hl t row hrow u w (.parent hfk hprow hrefers (.own hpcase)) hb
      subst hsame
      exact mem_selectIds.mpr ⟨prow, hprow, cellIn_eq_true.mpr ⟨u, hw, hpcase⟩, hpv⟩
    · next hparent =>
      obtain rfl := hnone hparent
      obtain rfl := hl t row hrow v w (.own hcell) hb
      exact hw

/-! ### The deletions, table after table -/

/-- What the rest of the order needs: a table's children went before it, or it
names itself in the cell that becomes NULL first, and the parents that its
subqueries read are still there. -/
def DeletesInOrder : List TableName → List TableName → Prop
  | _, [] => True
  | gone, t :: todo =>
    (t ∉ gone ∧
      (∀ fk ∈ presenterSchema.foreignKeys, fk.parent = t → fk.child ∈ gone ∨
        t = .caseProposalSelections ∧ fk.child = t ∧
          Column.expectedSelectionId ∈ fk.columns.map Prod.fst) ∧
      ∀ key ∈ aggregateKeys t, ∀ parent ∈ aggregateParent key, parent ∉ gone) ∧
    DeletesInOrder (t :: gone) todo

instance decidableDeletesInOrder : ∀ gone todo, Decidable (DeletesInOrder gone todo)
  | _, [] => inferInstanceAs (Decidable True)
  | gone, t :: todo =>
    have := decidableDeletesInOrder (t :: gone) todo
    inferInstanceAs (Decidable ((_ ∧ (∀ fk ∈ presenterSchema.foreignKeys, fk.parent = t → _ ∨ _) ∧
      ∀ key ∈ aggregateKeys t, ∀ parent ∈ aggregateParent key, _) ∧ _))

theorem deletesInOrder : DeletesInOrder [] TableName.presenterAggregateDeleteOrder := by
  decide +kernel

/-- A predicate only looks at the parents of its keys. -/
theorem aggregatePredicate_congr (h : ∀ key ∈ aggregateKeys t, ∀ parent ∈ aggregateParent key,
    db' parent = db parent) : aggregatePredicate caseIds t db' = aggregatePredicate caseIds t db := by
  have hvalues : ∀ key ∈ aggregateKeys t,
      predicateValues db' caseIds key = predicateValues db caseIds key := by
    intro key hkey
    unfold predicateValues
    split
    · next parent hparent =>
      unfold selectIds
      rw [h key hkey parent hparent]
    · rfl
  funext row
  rw [Bool.eq_iff_iff, aggregatePredicate_eq_true, aggregatePredicate_eq_true]
  refine exists_congr fun key => and_congr_right fun hkey => ?_
  rw [hvalues key hkey]

/-- No predicate looks at the cell of a selection that becomes NULL. -/
theorem aggregatePredicate_nullifyIf {b : Bool} :
    aggregatePredicate caseIds t db (row.nullifyIf b .expectedSelectionId) =
      aggregatePredicate caseIds t db row := by
  have hkey : ∀ key ∈ aggregateKeys t, key ≠ .expectedSelectionId := by
    cases t <;> decide
  rw [Bool.eq_iff_iff, aggregatePredicate_eq_true, aggregatePredicate_eq_true]
  refine exists_congr fun key => and_congr_right fun hmem => ?_
  rw [nullifyIf_cell_of_ne fun _ => hkey key hmem]

/-- The rows that the predicates select. -/
def owned (db : PresenterDatabase) (caseIds : List String) (t : TableName) (row : PresenterRow) :
    Bool :=
  aggregatePredicate caseIds t db row

theorem owned_nil : owned db [] t row = false := by
  rw [Bool.eq_false_iff]
  intro hp
  obtain ⟨key, -, v, hv, -⟩ := aggregatePredicate_eq_true.mp hp
  unfold predicateValues at hv
  split at hv
  · obtain ⟨row, -, hcase, -⟩ := mem_selectIds.mp hv
    obtain ⟨w, hw, -⟩ := cellIn_eq_true.mp hcase
    cases hw
  · cases hv

theorem closed_owned (caseIds : List String) (h : presenterSchema.Holds db) (hl : CaseLineage db) :
    Closed presenterSchema.foreignKeys db (owned db caseIds) :=
  closed_of_belongsTo fun _ _ hrow => (aggregatePredicate_iff h hl hrow).trans belongsToCases_iff

/-- No key refers to the cell that becomes NULL. -/
theorem foreignKeys_spare_expectedSelectionId : ∀ fk ∈ presenterSchema.foreignKeys,
    ∀ k ∈ fk.columns, k.2 ≠ .expectedSelectionId := by
  decide

/-- One table: its owned rows go, and no key is violated. -/
theorem returns_deleteTable (h : presenterSchema.Holds db) (hl : CaseLineage db)
    {gone todo : List TableName} (horder : DeletesInOrder gone (t :: todo)) {α : Type} {a : α}
    {k : ℕ → Connection α} :
    (do
      if t = .caseProposalSelections then
        setNullWhere t .expectedSelectionId (aggregatePredicate caseIds t)
      let rowcount ← deleteWhere t (aggregatePredicate caseIds t)
      k rowcount : Connection α).Returns (db.purge (owned db caseIds) gone) a db' ↔
      (k ((db t).countP (owned db caseIds t))).Returns (db.purge (owned db caseIds) (t :: gone)) a
        db' := by
  obtain ⟨⟨ht, hchildren, hparents⟩, -⟩ := horder
  have hpred : aggregatePredicate caseIds t (db.purge (owned db caseIds) gone) =
      owned db caseIds t :=
    aggregatePredicate_congr fun key hkey parent hparent =>
      purge_of_notMem (hparents key hkey parent hparent)
  have hclosed := closed_owned caseIds h hl
  have hspare := fun fk hfk (_ : fk.parent = t) => foreignKeys_spare_expectedSelectionId fk hfk
  by_cases hself : t = .caseProposalSelections
  · -- the selections: the cell first, which changes no predicate
    have hne : ∀ key ∈ aggregateKeys t, ∀ parent ∈ aggregateParent key, parent ≠ t := by
      subst hself
      decide
    have hchildren' : ∀ fk ∈ presenterSchema.foreignKeys, fk.parent = t → fk.child ∈ gone ∨
        fk.child = t ∧ Column.expectedSelectionId ∈ fk.columns.map Prod.fst :=
      fun fk hfk hparent => (hchildren fk hfk hparent).imp_right fun h => h.2
    have hpred' : aggregatePredicate caseIds t ((db.purge (owned db caseIds) gone).nullify t
        .expectedSelectionId (owned db caseIds t)) = owned db caseIds t :=
      aggregatePredicate_congr fun key hkey parent hparent => by
        rw [nullify_of_ne (hne key hkey parent hparent),
          purge_of_notMem (hparents key hkey parent hparent)]
    have hfree := unreferenced_nullify hclosed ht hchildren' (fun _ _ => rfl)
      (fun _ _ => aggregatePredicate_nullifyIf) hspare
    have hcount : (((db.purge (owned db caseIds) gone).nullify t .expectedSelectionId
        (owned db caseIds t)) t).countP (owned db caseIds t) = (db t).countP (owned db caseIds t) := by
      unfold Database.nullify
      rw [List.countP_map, purge_of_notMem ht]
      exact List.countP_congr fun row _ => by
        rw [Function.comp_apply]
        exact iff_of_eq (congrArg (· = true) aggregatePredicate_nullifyIf)
    have hdelete : ((db.purge (owned db caseIds) gone).nullify t .expectedSelectionId
        (owned db caseIds t)).delete t (owned db caseIds t) =
          db.purge (owned db caseIds) (t :: gone) :=
      (delete_nullify fun _ _ => aggregatePredicate_nullifyIf).trans (delete_purge ht fun _ _ => rfl)
    simp only [if_pos hself, returns_bind, returns_setNullWhere, returns_deleteWhere, hpred]
    constructor
    · rintro ⟨-, s₁, rfl, n, s₂, ⟨-, rfl, rfl⟩, hret⟩
      rw [hpred', hcount, hdelete] at hret
      exact hret
    · intro hret
      refine ⟨(), _, rfl, _, _, ⟨?_, rfl, rfl⟩, ?_⟩
      · rw [hpred']
        exact hfree
      · rw [hpred', hcount, hdelete]
        exact hret
  · have hchildren' : ∀ fk ∈ presenterSchema.foreignKeys, fk.parent = t → fk.child ∈ gone :=
      fun fk hfk hparent => (hchildren fk hfk hparent).resolve_right fun h => hself h.1
    have hfree := unreferenced_purge hclosed hchildren' fun _ _ => rfl
    simp only [if_neg hself, returns_bind, returns_deleteWhere, hpred]
    constructor
    · rintro ⟨n, s₁, ⟨-, rfl, rfl⟩, hret⟩
      rw [purge_of_notMem ht, delete_purge ht fun _ _ => rfl] at hret
      exact hret
    · intro hret
      refine ⟨_, _, ⟨hfree, rfl, rfl⟩, ?_⟩
      rw [purge_of_notMem ht, delete_purge ht fun _ _ => rfl]
      exact hret

/-- The tables one after the other. -/
theorem returns_deleteTables (h : presenterSchema.Holds db) (hl : CaseLineage db)
    {counts : TableName → ℕ} {gone todo : List TableName} (horder : DeletesInOrder gone todo) :
    (deleteTables caseIds todo).Returns (db.purge (owned db caseIds) gone) counts db' ↔
      (counts = fun t => if t ∈ todo then (db t).countP (owned db caseIds t) else 0) ∧
        db' = db.purge (owned db caseIds) (todo.reverse ++ gone) := by
  induction todo generalizing gone counts db' with
  | nil => simp [deleteTables]
  | cons t todo ih =>
    unfold deleteTables
    rw [returns_deleteTable h hl horder]
    simp only [returns_bind, ih horder.2, pure_eq_done, returns_done]
    have hcounts : Function.update (fun t => if t ∈ todo then (db t).countP (owned db caseIds t) else 0)
        t ((db t).countP (owned db caseIds t)) =
        fun t' => if t' ∈ t :: todo then (db t').countP (owned db caseIds t') else 0 := by
      funext t'
      by_cases ht : t' = t
      · subst ht
        simp
      · simp [ht]
    have hgone : todo.reverse ++ t :: gone = (t :: todo).reverse ++ gone := by simp
    constructor
    · rintro ⟨_, _, ⟨rfl, rfl⟩, rfl, rfl⟩
      exact ⟨hcounts, by rw [hgone]⟩
    · rintro ⟨rfl, rfl⟩
      exact ⟨_, _, ⟨rfl, rfl⟩, hcounts.symm, by rw [hgone]⟩

/-- The rows that do not belong to the cases. -/
def others (db : PresenterDatabase) (caseIds : List String) : PresenterDatabase :=
  fun t => (db t).filter fun row => !owned db caseIds t row

/-- The deletions leave the rows of the other cases and count the others, whatever
the plan: no statement violates a key. -/
theorem returns_deletePresenterAggregates (h : presenterSchema.Holds db) (hl : CaseLineage db)
    {plan : PresenterRetentionPlan} {result : PresenterRetentionResult} :
    (deletePresenterAggregates plan).Returns db result db' ↔
      result = ⟨plan, fun t => (db t).countP (owned db plan.prunedCaseIds t)⟩ ∧
        db' = others db plan.prunedCaseIds := by
  unfold deletePresenterAggregates
  have hall : ∀ t, t ∈ TableName.presenterAggregateDeleteOrder.reverse := fun t =>
    List.mem_reverse.mpr (TableName.mem_presenterAggregateDeleteOrder t)
  by_cases hnone : plan.prunedCaseIds = []
  · -- no case, no statement
    have hfalse : ∀ t row, owned db plan.prunedCaseIds t row = false := by
      intro t row
      rw [hnone]
      exact owned_nil
    have hothers : others db plan.prunedCaseIds = db := by
      funext t
      simp [others, hfalse]
    have hcounts : (fun t => (db t).countP (owned db plan.prunedCaseIds t)) = fun _ => 0 :=
      funext fun t => List.countP_eq_zero.mpr fun row _ => by
        rw [hfalse]
        exact Bool.false_ne_true
    rw [if_pos hnone, hothers, hcounts]
    simp only [bind_done, pure_eq_done, returns_done]
  · rw [if_neg hnone]
    have hrun := fun counts db' =>
      @returns_deleteTables db db' plan.prunedCaseIds h hl counts [] _ deletesInOrder
    simp only [purge_nil, List.append_nil] at hrun
    simp only [returns_bind, hrun, pure_eq_done, returns_done,
      TableName.mem_presenterAggregateDeleteOrder, if_true]
    have hothers : db.purge (owned db plan.prunedCaseIds)
        TableName.presenterAggregateDeleteOrder.reverse = others db plan.prunedCaseIds :=
      funext fun t => purge_of_mem (hall t)
    rw [hothers]
    constructor
    · rintro ⟨_, _, ⟨rfl, rfl⟩, rfl, rfl⟩
      exact ⟨rfl, rfl⟩
    · rintro ⟨rfl, rfl⟩
      exact ⟨_, _, ⟨rfl, rfl⟩, rfl, rfl⟩

/-! ### The plan -/

/-- A row of a live, showcase and supplier-bound case. -/
def EligibleRow (row : PresenterRow) (caseId : String) : Prop :=
  row.cell .runtimeMode = some (.text RuntimeMode.live.value) ∧
    row.cell .purpose = some (.text CasePurpose.showcase.value) ∧
    ∃ case, decodeCase row = .ok case ∧ EligibleCase row case ∧ case.caseId = caseId

/-- A live, showcase and supplier-bound case is stored. -/
def Eligible (db : PresenterDatabase) (caseId : String) : Prop :=
  ∃ row ∈ db .caseInstances, EligibleRow row caseId

/-- The case was recorded later, or at the same time under a greater id. -/
def Newer (db : PresenterDatabase) (caseId caseId' : String) : Prop :=
  ∃ row ∈ db .caseInstances, ∃ row' ∈ db .caseInstances,
    row.cell .caseId = some (.text caseId) ∧ row'.cell .caseId = some (.text caseId') ∧
      (recordedAt row' < recordedAt row ∨ recordedAt row' = recordedAt row ∧ caseId' < caseId)

/-- All eligible cases, newest first. -/
structure NewestFirst (db : PresenterDatabase) (caseIds : List String) : Prop where
  mem_iff : ∀ caseId, caseId ∈ caseIds ↔ Eligible db caseId
  nodup : caseIds.Nodup
  sorted : caseIds.Pairwise (Newer db)

/-- The id of a row, if it is an eligible case. -/
def eligibleId (row : PresenterRow) : Option String :=
  match decodeCase row with
  | .ok case => if EligibleCase row case then some case.caseId else none
  | .error _ => none

theorem eligibleId_eq_some {caseId : String} :
    eligibleId row = some caseId ↔
      ∃ case, decodeCase row = .ok case ∧ EligibleCase row case ∧ case.caseId = caseId := by
  unfold eligibleId
  cases decodeCase row with
  | error e => simp
  | ok case =>
    by_cases h : EligibleCase row case
    · simp [h]
    · simp [h]

theorem eligibleCases_eq_ok {rows : List PresenterRow} {ids : List String} :
    eligibleCases rows = .ok ids ↔
      (∀ row ∈ rows, ∃ case, decodeCase row = .ok case) ∧ ids = rows.filterMap eligibleId := by
  induction rows generalizing ids with
  | nil => simp [eligibleCases, eq_comm]
  | cons row rest ih =>
    unfold eligibleCases
    cases hcase : decodeCase row with
    | error e => simp [hcase]
    | ok case =>
      cases hrest : eligibleCases rest with
      | error e =>
        have hnot : ¬∀ row ∈ rest, ∃ case, decodeCase row = .ok case := fun h => by
          have := ih.mpr ⟨h, rfl⟩
          rw [hrest] at this
          cases this
        simp [hnot]
      | ok rest' =>
        obtain ⟨hall, rfl⟩ := ih.mp hrest
        have hall' : ∀ r ∈ row :: rest, ∃ case, decodeCase r = .ok case :=
          List.forall_mem_cons.mpr ⟨⟨case, hcase⟩, hall⟩
        have hid : eligibleId row = if EligibleCase row case then some case.caseId else none := by
          simp only [eligibleId, hcase]
        rw [and_iff_right hall', List.filterMap_cons, hid]
        by_cases h : EligibleCase row case
        · simp only [if_pos h, Except.ok.injEq]
          exact eq_comm
        · simp only [if_neg h, Except.ok.injEq]
          exact eq_comm

theorem mem_presenterRows :
    row ∈ presenterRows db ↔ row ∈ db .caseInstances ∧
      row.cell .runtimeMode = some (.text RuntimeMode.live.value) ∧
      row.cell .purpose = some (.text CasePurpose.showcase.value) := by
  unfold presenterRows
  rw [List.mem_insertionSort, List.mem_filter, decide_eq_true_iff]

/-- The place of a row in the order, newest first. -/
def newness (row : PresenterRow) : (Instant ×ₗ String)ᵒᵈ :=
  OrderDual.toDual (toLex (recordedAt row, rowCaseId row))

theorem noLater_iff (row row' : PresenterRow) : NoLater row row' ↔ newness row ≤ newness row' := by
  unfold NoLater newness
  rw [OrderDual.toDual_le_toDual, Prod.Lex.toLex_le_toLex]

instance : Std.Total NoLater := Sorting.total_of_key newness noLater_iff

instance : IsTrans PresenterRow NoLater := Sorting.trans_of_key newness noLater_iff

/-- The plan reads the eligible cases in their order. -/
theorem newestFirst_eligibleCases (h : presenterSchema.Holds db) {ids : List String}
    (hids : eligibleCases (presenterRows db) = .ok ids) : NewestFirst db ids := by
  obtain ⟨-, rfl⟩ := eligibleCases_eq_ok.mp hids
  have hdistinct : (presenterRows db).Pairwise fun r r' => r.cell .caseId ≠ r'.cell .caseId := by
    unfold presenterRows
    refine ((List.perm_insertionSort NoLater _).pairwise_iff fun hne => hne.symm).mpr ?_
    refine ((h.unique .caseInstances).sublist List.filter_sublist).imp fun hne heq => hne ?_
    intro c hc
    obtain rfl := List.mem_singleton.mp hc
    exact heq
  constructor
  · intro caseId
    rw [List.mem_filterMap]
    simp only [eligibleId_eq_some, mem_presenterRows, Eligible, EligibleRow, and_assoc]
  · refine hdistinct.filterMap _ fun row row' hne caseId hid caseId' hid' heq => hne ?_
    obtain ⟨case, -, hcase, rfl⟩ := eligibleId_eq_some.mp hid
    obtain ⟨case', -, hcase', rfl⟩ := eligibleId_eq_some.mp hid'
    rw [hcase.2.2.2, hcase'.2.2.2, heq]
  · have hsorted : (presenterRows db).Pairwise NoLater := List.pairwise_insertionSort _ _
    refine (List.Pairwise.and_mem.mp (hdistinct.and hsorted)).filterMap _ ?_
    rintro row row' ⟨hrow, hrow', hne, hlater⟩ caseId hid caseId' hid'
    have hrow := (mem_presenterRows.mp hrow).1
    have hrow' := (mem_presenterRows.mp hrow').1
    obtain ⟨case, -, hcase, rfl⟩ := eligibleId_eq_some.mp hid
    obtain ⟨case', -, hcase', rfl⟩ := eligibleId_eq_some.mp hid'
    have hcell := hcase.2.2.2
    have hcell' := hcase'.2.2.2
    refine ⟨row, hrow, row', hrow', hcell, hcell', hlater.imp_right fun ⟨hat, hle⟩ => ⟨hat, ?_⟩⟩
    unfold rowCaseId at hle
    rw [hcell, hcell'] at hle hne
    exact lt_of_le_of_ne hle fun heq => hne (congrArg (fun s => some (Value.text s)) heq.symm)

theorem returns_countTables {counts : TableName → ℕ} {tables : List TableName} :
    (countTables caseIds tables).Returns db counts db' ↔
      (counts = fun t => if t ∈ tables then (db t).countP (owned db caseIds t) else 0) ∧ db' = db := by
  induction tables generalizing counts db' with
  | nil => simp [countTables]
  | cons t tables ih =>
    rw [countTables, returns_select_bind, returns_bind]
    simp only [ih, pure_eq_done, returns_done]
    have hcounts : Function.update (fun t => if t ∈ tables then (db t).countP (owned db caseIds t)
        else 0) t ((db t).countP (aggregatePredicate caseIds t db)) =
        fun t' => if t' ∈ t :: tables then (db t').countP (owned db caseIds t') else 0 := by
      funext t'
      by_cases ht : t' = t
      · subst ht
        simp only [Function.update_self, List.mem_cons_self, if_true]
        rfl
      · simp [ht]
    constructor
    · rintro ⟨_, _, ⟨rfl, rfl⟩, rfl, rfl⟩
      exact ⟨hcounts, rfl⟩
    · rintro ⟨rfl, rfl⟩
      exact ⟨_, _, ⟨rfl, rfl⟩, hcounts.symm, rfl⟩

theorem returns_countPresenterAggregateDeletions {counts : TableName → ℕ} :
    (countPresenterAggregateDeletions caseIds).Returns db counts db' ↔
      (counts = fun t => (db t).countP (owned db caseIds t)) ∧ db' = db := by
  unfold countPresenterAggregateDeletions
  by_cases hnone : caseIds = []
  · subst hnone
    have hcounts : (fun t => (db t).countP (owned db [] t)) = fun _ => 0 :=
      funext fun t => List.countP_eq_zero.mpr fun row _ => by
        rw [owned_nil]
        exact Bool.false_ne_true
    rw [if_pos rfl, returns_done, hcounts]
  · rw [if_neg hnone, returns_countTables]
    simp only [TableName.mem_presenterAggregateDeleteOrder, if_true]

/-- The plan around a current case. -/
def planOf (db : PresenterDatabase) (eligible : List String) (currentCaseId : String) (limit : ℕ) :
    PresenterRetentionPlan :=
  let history := eligible.filter fun caseId => decide (caseId ≠ currentCaseId)
  ⟨currentCaseId, currentCaseId :: history.take limit, history.drop limit,
    fun t => (db t).countP (owned db (history.drop limit) t)⟩

theorem returns_planAround {currentCaseId : String} {eligible : List String} {limit : ℤ}
    {plan : PresenterRetentionPlan} :
    (planAround currentCaseId eligible limit).Returns db plan db' ↔
      currentCaseId ∈ eligible ∧ plan = planOf db eligible currentCaseId limit.toNat ∧ db' = db := by
  rw [planAround, returns_require_bind, returns_bind]
  simp only [returns_countPresenterAggregateDeletions, pure_eq_done, returns_done]
  refine and_congr_right fun _ => ?_
  constructor
  · rintro ⟨_, _, ⟨rfl, rfl⟩, rfl, rfl⟩
    exact ⟨rfl, rfl⟩
  · rintro ⟨rfl, rfl⟩
    exact ⟨_, _, ⟨rfl, rfl⟩, rfl, rfl⟩

theorem returns_connection_ofExcept_bind {α β : Type} {r : Except Raised α} {k : α → Connection β} {b : β} :
    (Connection.ofExcept r >>= k).Returns db b db' ↔ ∃ a, r = .ok a ∧ (k a).Returns db b db' := by
  cases r with
  | error e => simp [Connection.ofExcept]
  | ok a => simp [Connection.ofExcept]

theorem returns_planPresenterRetention {currentCaseId : Option String} {limit : ℤ}
    {plan : PresenterRetentionPlan} :
    (planPresenterRetention currentCaseId limit).Returns db plan db' ↔
      0 ≤ limit ∧ db' = db ∧ ∃ eligible, eligibleCases (presenterRows db) = .ok eligible ∧
        ((∃ caseId ∈ eligible, currentCaseId.or eligible.head? = some caseId ∧
            plan = planOf db eligible caseId limit.toNat) ∨
          currentCaseId = none ∧ eligible = [] ∧ plan = ⟨"", [], [], fun _ => 0⟩) := by
  unfold planPresenterRetention
  rw [returns_require_bind, returns_select_bind, returns_connection_ofExcept_bind]
  refine and_congr_right fun _ => ?_
  constructor
  · rintro ⟨eligible, heligible, h⟩
    cases currentCaseId with
    | some caseId =>
      obtain ⟨hmem, hplan, rfl⟩ := returns_planAround.mp h
      exact ⟨rfl, eligible, heligible, .inl ⟨caseId, hmem, rfl, hplan⟩⟩
    | none =>
      cases eligible with
      | nil =>
        obtain ⟨hplan, rfl⟩ := returns_done.mp h
        exact ⟨rfl, [], heligible, .inr ⟨rfl, rfl, hplan⟩⟩
      | cons newest rest =>
        obtain ⟨hmem, hplan, rfl⟩ := returns_planAround.mp h
        exact ⟨rfl, _, heligible, .inl ⟨newest, hmem, rfl, hplan⟩⟩
  · rintro ⟨rfl, eligible, heligible, ⟨caseId, hmem, hcurrent, hplan⟩ | ⟨rfl, rfl, hplan⟩⟩
    · refine ⟨eligible, heligible, ?_⟩
      cases currentCaseId with
      | some current =>
        obtain rfl := Option.some.inj hcurrent
        exact returns_planAround.mpr ⟨hmem, hplan, rfl⟩
      | none =>
        cases eligible with
        | nil => cases hcurrent
        | cons newest rest =>
          obtain rfl := Option.some.inj hcurrent
          exact returns_planAround.mpr ⟨hmem, hplan, rfl⟩
    · exact ⟨[], heligible, returns_done.mpr ⟨hplan, rfl⟩⟩

/-! ### A new case -/

variable {case : CaseInstance} {snapshot : OperationalSnapshot} {now : Instant}

/-- The rows of a new case. -/
def newRows (case : CaseInstance) (snapshot : OperationalSnapshot) (now : Instant) :
    TableName → List PresenterRow
  | .caseInstances => [caseRow case now]
  | .operationalSnapshots => [snapshotRow snapshot]
  | .caseProjection => [projectionRow case]
  | _ => []

/-- The database with a new case. -/
def withCase (db : PresenterDatabase) (case : CaseInstance) (snapshot : OperationalSnapshot)
    (now : Instant) : PresenterDatabase :=
  ((db.insert .caseInstances (caseRow case now)).insert .operationalSnapshots
    (snapshotRow snapshot)).insert .caseProjection (projectionRow case)

theorem withCase_apply (t : TableName) :
    withCase db case snapshot now t = db t ++ newRows case snapshot now t := by
  cases t <;> simp [withCase, newRows, Database.insert, Function.update]

/-- No case has the id. -/
def FreeId (db : PresenterDatabase) (caseId : String) : Prop :=
  ∀ row ∈ db .caseInstances, row.cell .caseId ≠ some (.text caseId)

instance (db : PresenterDatabase) (caseId : String) : Decidable (FreeId db caseId) :=
  inferInstanceAs (Decidable (∀ row ∈ db .caseInstances, _))

theorem shaped_caseRow : presenterSchema.Shaped .caseInstances (caseRow case now) := by
  refine ⟨fun c hc _ => ?_, fun c hc => ?_⟩
  · cases c <;> first | exact Option.some_ne_none _ | exact absurd hc (by decide)
  · cases c <;> first | decide | exact absurd rfl hc

theorem shaped_snapshotRow : presenterSchema.Shaped .operationalSnapshots (snapshotRow snapshot) := by
  refine ⟨fun c hc _ => ?_, fun c hc => ?_⟩
  · cases c <;> first | exact Option.some_ne_none _ | exact absurd hc (by decide)
  · cases c <;> first | decide | exact absurd rfl hc

theorem shaped_projectionRow : presenterSchema.Shaped .caseProjection (projectionRow case) := by
  refine ⟨fun c hc hn => ?_, fun c hc => ?_⟩
  · cases c <;> first
      | exact Option.some_ne_none _
      | exact absurd hc (by decide)
      | exact absurd (by decide) hn
  · cases c <;> first | decide | exact absurd rfl hc

/-- Cases refer to nothing. -/
theorem foreignKeys_child_ne_caseInstances :
    ∀ fk ∈ presenterSchema.foreignKeys, fk.child ≠ .caseInstances := by
  decide

theorem toCase_refers_iff {parent : PresenterRow} :
    (TableName.toCase t).Refers row parent ↔
      row.cell .caseId ≠ none ∧ row.cell .caseId = parent.cell .caseId := by
  unfold TableName.toCase ForeignKey.Refers
  simp only [List.forall_mem_singleton]

/-- A row that names its case and nothing else. -/
def NamesOnlyCase (t : TableName) (row : PresenterRow) (caseId : String) : Prop :=
  row.cell .caseId = some (.text caseId) ∧
    ∀ fk ∈ presenterSchema.foreignKeys, fk.child = t → fk.Set row → fk = TableName.toCase t

/-- Such a row belongs to its case. -/
theorem NamesOnlyCase.belongsTo {caseId : String} (h : NamesOnlyCase t row caseId) {v : Value}
    (hb : BelongsTo presenterSchema.foreignKeys .caseId db t row v) : v = .text caseId := by
  have hown : ∀ {parent : PresenterRow} {v : Value}, parent.cell .caseId = some (.text caseId) →
      parent.cell .caseId = some v → v = .text caseId := fun hcell hv =>
    Option.some.inj (hv.symm.trans hcell)
  rcases belongsTo_cases hb with hv | ⟨fk, hfk, hchild, parent, -, hrefers, hb⟩
  · exact hown h.1 hv
  · obtain rfl := h.2 fk hfk hchild hrefers.set
    have hparent : parent.cell .caseId = some (.text caseId) :=
      (toCase_refers_iff.mp hrefers).2.symm.trans h.1
    rcases belongsTo_cases hb with hv | ⟨fk', hfk', hchild', -⟩
    · exact hown hparent hv
    · exact absurd hchild' (foreignKeys_child_ne_caseInstances fk' hfk')

theorem namesOnlyCase_caseRow : NamesOnlyCase .caseInstances (caseRow case now) case.caseId :=
  ⟨rfl, fun fk hfk hchild => absurd hchild (foreignKeys_child_ne_caseInstances fk hfk)⟩

theorem namesOnlyCase_snapshotRow :
    NamesOnlyCase .operationalSnapshots (snapshotRow snapshot) snapshot.caseId := by
  refine ⟨rfl, fun fk hfk hchild _ => ?_⟩
  have hkeys : ∀ fk ∈ presenterSchema.foreignKeys, fk.child = .operationalSnapshots →
      fk = TableName.toCase .operationalSnapshots := by
    decide
  exact hkeys fk hfk hchild

theorem namesOnlyCase_projectionRow :
    NamesOnlyCase .caseProjection (projectionRow case) case.caseId := by
  refine ⟨rfl, fun fk hfk hchild hset => ?_⟩
  have hkeys : ∀ fk ∈ presenterSchema.foreignKeys, fk.child = .caseProjection →
      fk = TableName.toCase .caseProjection ∨ ∃ k ∈ fk.columns,
        k.1 = .currentAnalysisId ∨ k.1 = .currentSelectionId ∨ k.1 = .currentDecisionId := by
    decide
  rcases hkeys fk hfk hchild with heq | ⟨k, hk, hcolumn⟩
  · exact heq
  · refine absurd ?_ (hset k hk)
    rcases hcolumn with h | h | h <;> rw [h] <;> rfl

/-- Such a row is admitted where its case is, if its table has none of that case. -/
theorem NamesOnlyCase.admits {caseId : String} (h : NamesOnlyCase t row caseId)
    (hprimary : presenterSchema.primaryKey t = [.caseId])
    (hfree : ∀ r ∈ db t, r.cell .caseId ≠ some (.text caseId))
    (hcase : ∃ r ∈ db .caseInstances, r.cell .caseId = some (.text caseId)) :
    Admits presenterSchema db t row := by
  refine ⟨fun r hr hagree => hfree r hr ?_, fun fk hfk hchild hset => ?_⟩
  · rw [hprimary] at hagree
    exact (hagree .caseId (List.mem_singleton.mpr rfl)).trans h.1
  · obtain rfl := h.2 fk hfk hchild hset
    obtain ⟨parent, hmem, hcell⟩ := hcase
    refine ⟨parent, hmem, toCase_refers_iff.mpr ⟨?_, ?_⟩⟩
    · rw [h.1]
      exact Option.some_ne_none _
    · rw [h.1, hcell]

/-- A free id is free in every table whose `case_id` refers to the cases. -/
theorem free_of_freeId (h : presenterSchema.Holds db) {caseId : String} (hfree : FreeId db caseId)
    (hfk : TableName.toCase t ∈ presenterSchema.foreignKeys) :
    ∀ r ∈ db t, r.cell .caseId ≠ some (.text caseId) := by
  intro r hr hcell
  obtain ⟨parent, hparent, hrefers⟩ := h.refers _ hfk r hr fun c hc => by
    obtain rfl := List.mem_singleton.mp hc
    rw [hcell]
    exact Option.some_ne_none _
  exact hfree parent hparent ((toCase_refers_iff.mp hrefers).2.symm.trans hcell)

/-- The rows of a case with a free id are admitted one after the other. -/
theorem admits_newRows (now : Instant) (h : presenterSchema.Holds db) (hsnapshot : snapshot.caseId = case.caseId)
    (hfree : FreeId db case.caseId) :
    Admits presenterSchema db .caseInstances (caseRow case now) ∧
      Admits presenterSchema (db.insert .caseInstances (caseRow case now)) .operationalSnapshots
        (snapshotRow snapshot) ∧
      Admits presenterSchema ((db.insert .caseInstances (caseRow case now)).insert
        .operationalSnapshots (snapshotRow snapshot)) .caseProjection (projectionRow case) := by
  have hsnap : ∀ r ∈ db .operationalSnapshots, r.cell .caseId ≠ some (.text case.caseId) :=
    free_of_freeId h hfree (by decide)
  have hproj : ∀ r ∈ db .caseProjection, r.cell .caseId ≠ some (.text case.caseId) :=
    free_of_freeId h hfree (by decide)
  refine ⟨⟨fun row hrow hagree => hfree row hrow ?_, fun fk hfk hchild => ?_⟩, ?_, ?_⟩
  · exact hagree .caseId (List.mem_singleton.mpr rfl)
  · exact absurd hchild (foreignKeys_child_ne_caseInstances fk hfk)
  · refine NamesOnlyCase.admits (hsnapshot ▸ namesOnlyCase_snapshotRow) rfl ?_
      ⟨_, mem_insert.mpr (.inr ⟨rfl, rfl⟩), rfl⟩
    rw [insert_of_ne (by decide)]
    exact hsnap
  · refine namesOnlyCase_projectionRow.admits rfl ?_ ⟨caseRow case now, ?_, rfl⟩
    · rw [insert_of_ne (by decide), insert_of_ne (by decide)]
      exact hproj
    · rw [insert_of_ne (by decide)]
      exact mem_insert.mpr (.inr ⟨rfl, rfl⟩)

/-- The three rows of a case are inserted, if its id is free. -/
theorem returns_insertCaseConnection (h : presenterSchema.Holds db)
    (hsnapshot : snapshot.caseId = case.caseId) {u : Unit} :
    (insertCaseConnection case snapshot now).Returns db u db' ↔
      FreeId db case.caseId ∧ db' = withCase db case snapshot now := by
  unfold insertCaseConnection
  simp only [returns_bind, returns_insertPresenterRow]
  constructor
  · rintro ⟨_, _, ⟨hcase, rfl⟩, _, _, ⟨-, rfl⟩, -, rfl⟩
    refine ⟨fun row hrow hcell => hcase.1 row hrow fun c hc => ?_, rfl⟩
    obtain rfl := List.mem_singleton.mp hc
    exact hcell
  · rintro ⟨hfree, rfl⟩
    obtain ⟨hcase, hsnap, hproj⟩ := admits_newRows now h hsnapshot hfree
    exact ⟨(), _, ⟨hcase, rfl⟩, (), _, ⟨hsnap, rfl⟩, hproj, rfl⟩

/-- The keys and the lineage hold again, and the rows that were there belong to
whom they belonged to. -/
structure Gains (db db' : PresenterDatabase) : Prop where
  holds : presenterSchema.Holds db'
  lineage : CaseLineage db'
  subset : ∀ t row, row ∈ db t → row ∈ db' t
  belongsTo_iff : ∀ t row v, row ∈ db t →
    (BelongsTo presenterSchema.foreignKeys .caseId db' t row v ↔
      BelongsTo presenterSchema.foreignKeys .caseId db t row v)

theorem Gains.trans {db'' : PresenterDatabase} (h : Gains db db') (h' : Gains db' db'') :
    Gains db db'' where
  holds := h'.holds
  lineage := h'.lineage
  subset t row hrow := h'.subset t row (h.subset t row hrow)
  belongsTo_iff t row v hrow :=
    (h'.belongsTo_iff t row v (h.subset t row hrow)).trans (h.belongsTo_iff t row v hrow)

theorem NamesOnlyCase.gains {caseId : String} (h : NamesOnlyCase t row caseId)
    (hdb : presenterSchema.Holds db) (hl : CaseLineage db) (hshape : presenterSchema.Shaped t row)
    (hadmits : Admits presenterSchema db t row) : Gains db (db.insert t row) where
  holds := hdb.insert hshape hadmits
  lineage := hl.insert hdb hadmits foreignKeys_name_primaryKeys fun _ hb => h.belongsTo hb
  subset _ _ hr := mem_insert.mpr (.inl hr)
  belongsTo_iff _ _ _ hr := hdb.belongsTo_insert hadmits foreignKeys_name_primaryKeys hr

theorem gains_withCase (now : Instant) (h : presenterSchema.Holds db) (hl : CaseLineage db)
    (hsnapshot : snapshot.caseId = case.caseId) (hfree : FreeId db case.caseId) :
    Gains db (withCase db case snapshot now) := by
  obtain ⟨hcase, hsnap, hproj⟩ := admits_newRows now h hsnapshot hfree
  have h₁ := namesOnlyCase_caseRow.gains h hl shaped_caseRow hcase
  have h₂ := namesOnlyCase_snapshotRow.gains h₁.holds h₁.lineage shaped_snapshotRow hsnap
  exact (h₁.trans h₂).trans
    (namesOnlyCase_projectionRow.gains h₂.holds h₂.lineage shaped_projectionRow hproj)

/-! ### What is left -/

open Classical in
/-- The rows that belong to none of the cases. -/
noncomputable def withoutCases (db : PresenterDatabase) (caseIds : List String) :
    PresenterDatabase :=
  fun t => (db t).filter fun row => decide ¬BelongsToCases db caseIds t row

theorem others_eq_withoutCases (h : presenterSchema.Holds db) (hl : CaseLineage db) :
    others db caseIds = withoutCases db caseIds := by
  classical
  funext t
  refine List.filter_congr fun row hrow => ?_
  rw [Bool.eq_iff_iff, Bool.not_eq_true', decide_eq_true_iff, Bool.eq_false_iff]
  exact not_congr (aggregatePredicate_iff h hl hrow)

/-- What is left of the rows of a table, and what is counted. -/
theorem length_others : (db t).length =
    (others db caseIds t).length + (db t).countP (owned db caseIds t) := by
  have hcounts := List.length_eq_countP_add_countP (owned db caseIds t) (l := db t)
  have hnot : (fun row => decide ¬owned db caseIds t row = true) = fun row => !owned db caseIds t row := by
    funext row
    cases owned db caseIds t row <;> rfl
  rw [hnot, List.countP_eq_length_filter (p := fun row => !owned db caseIds t row)] at hcounts
  exact hcounts.trans (Nat.add_comm ..)

/-- The rows that are left keep the keys. -/
theorem holds_others (h : presenterSchema.Holds db) (hl : CaseLineage db) :
    presenterSchema.Holds (others db caseIds) where
  shaped t row hrow := h.shaped t row (List.mem_filter.mp hrow).1
  unique t := (h.unique t).sublist List.filter_sublist
  refers fk hfk row hrow hset := by
    obtain ⟨hmem, hnot⟩ := List.mem_filter.mp hrow
    obtain ⟨parent, hparent, hrefers⟩ := h.refers fk hfk row hmem hset
    refine ⟨parent, List.mem_filter.mpr ⟨hparent, ?_⟩, hrefers⟩
    rw [Bool.not_eq_true', Bool.eq_false_iff] at hnot ⊢
    exact fun hown => hnot (closed_owned caseIds h hl fk hfk row hmem parent hparent hrefers hown)

/-- Less rows, the same lineage. -/
theorem lineage_others (hl : CaseLineage db) : CaseLineage (others db caseIds) := by
  have hmono : ∀ t row v, BelongsTo presenterSchema.foreignKeys .caseId (others db caseIds) t row v →
      BelongsTo presenterSchema.foreignKeys .caseId db t row v := by
    intro t row v hb
    induction hb with
    | own h => exact .own h
    | parent hfk hparent hrefers _ ih => exact .parent hfk (List.mem_filter.mp hparent).1 hrefers ih
  intro t row hrow v v' hv hv'
  exact hl t row (List.mem_filter.mp hrow).1 v v' (hmono t row v hv) (hmono t row v' hv')

/-- A case row goes with its own id. -/
theorem owned_caseInstances {caseId : String} (h : presenterSchema.Holds db) (hl : CaseLineage db)
    (hrow : row ∈ db .caseInstances) (hcell : row.cell .caseId = some (.text caseId)) :
    owned db caseIds .caseInstances row = true ↔ caseId ∈ caseIds := by
  constructor
  · intro hown
    obtain ⟨caseId', hmem, hb⟩ := (aggregatePredicate_iff h hl hrow).mp hown
    rcases belongsTo_cases hb with hv | ⟨fk, hfk, hchild, -⟩
    · obtain rfl := Value.text.inj (Option.some.inj (hcell.symm.trans hv))
      exact hmem
    · exact absurd hchild (foreignKeys_child_ne_caseInstances fk hfk)
  · intro hmem
    exact aggregatePredicate_of_caseId (by decide) hmem hcell

/-- The eligible cases that are left. -/
theorem eligible_others (h : presenterSchema.Holds db) (hl : CaseLineage db) {caseId : String} :
    Eligible (others db caseIds) caseId ↔ Eligible db caseId ∧ caseId ∉ caseIds := by
  constructor
  · rintro ⟨row, hrow, helig⟩
    obtain ⟨hmem, hnot⟩ := List.mem_filter.mp hrow
    obtain ⟨-, -, case, -, hcase, rfl⟩ := id helig
    refine ⟨⟨row, hmem, helig⟩, fun hin => ?_⟩
    rw [(owned_caseInstances h hl hmem hcase.2.2.2).mpr hin] at hnot
    cases hnot
  · rintro ⟨⟨row, hmem, helig⟩, hout⟩
    obtain ⟨-, -, case, -, hcase, rfl⟩ := id helig
    refine ⟨row, List.mem_filter.mpr ⟨hmem, ?_⟩, helig⟩
    rw [Bool.not_eq_true', Bool.eq_false_iff]
    exact fun hown => hout ((owned_caseInstances h hl hmem hcase.2.2.2).mp hown)

/-! ### Creating a presenter case -/

/-- The new case can be retained. -/
def EligibleNew (case : CaseInstance) : Prop :=
  case.runtimeMode = .live ∧ case.purpose = .showcase ∧ case.supplierEmail ≠ none

theorem eligible_withCase {caseId : String} :
    Eligible (withCase db case snapshot now) caseId ↔
      Eligible db caseId ∨ EligibleNew case ∧ caseId = case.caseId := by
  unfold Eligible
  rw [withCase_apply]
  constructor
  · rintro ⟨row, hrow, helig⟩
    rcases List.mem_append.mp hrow with hold | hnew
    · exact .inl ⟨row, hold, helig⟩
    · obtain rfl := List.mem_singleton.mp hnew
      obtain ⟨-, -, case', hdecode, ⟨hmode, hpurpose, hsupplier, -⟩, rfl⟩ := helig
      obtain rfl := Except.ok.inj hdecode
      exact .inr ⟨⟨hmode, hpurpose, hsupplier⟩, rfl⟩
  · rintro (⟨row, hrow, helig⟩ | ⟨⟨hmode, hpurpose, hsupplier⟩, rfl⟩)
    · exact ⟨row, List.mem_append.mpr (.inl hrow), helig⟩
    · refine ⟨caseRow case now, List.mem_append.mpr (.inr (List.mem_singleton.mpr rfl)), ?_, ?_, case,
        rfl, ⟨hmode, hpurpose, hsupplier, rfl⟩, rfl⟩
      · show some (Value.text case.runtimeMode.value) = _
        rw [hmode]
      · show some (Value.text case.purpose.value) = _
        rw [hpurpose]

/-- Without the new case, the order is that of the others. -/
theorem newestFirst_history (hfree : FreeId db case.caseId) {ids : List String}
    (hids : NewestFirst (withCase db case snapshot now) ids) :
    NewestFirst db (ids.filter fun caseId => decide (caseId ≠ case.caseId)) := by
  have hnot : ¬Eligible db case.caseId := by
    rintro ⟨row, hrow, -, -, case', -, hcase', heq⟩
    exact hfree row hrow (heq ▸ hcase'.2.2.2)
  have hold : ∀ row ∈ withCase db case snapshot now .caseInstances, ∀ caseId, caseId ≠ case.caseId →
      row.cell .caseId = some (.text caseId) → row ∈ db .caseInstances := by
    intro row hrow caseId hne hcell
    rw [withCase_apply] at hrow
    rcases List.mem_append.mp hrow with hold | hnew
    · exact hold
    · obtain rfl := List.mem_singleton.mp hnew
      exact absurd (Value.text.inj (Option.some.inj hcell)).symm hne
  constructor
  · intro caseId
    rw [List.mem_filter, hids.mem_iff, eligible_withCase, decide_eq_true_iff]
    constructor
    · rintro ⟨helig | ⟨-, heq⟩, hne⟩
      · exact helig
      · exact absurd heq hne
    · exact fun helig => ⟨.inl helig, fun heq => hnot (heq ▸ helig)⟩
  · exact hids.nodup.sublist List.filter_sublist
  · have hsorted := List.Pairwise.and_mem.mp (hids.sorted.sublist
      (List.filter_sublist (p := fun caseId => decide (caseId ≠ case.caseId))))
    refine hsorted.imp ?_
    rintro a b ⟨ha, hb, row, hrow, row', hrow', hcell, hcell', hlater⟩
    have ha := of_decide_eq_true (List.mem_filter.mp ha).2
    have hb := of_decide_eq_true (List.mem_filter.mp hb).2
    exact ⟨row, hold row hrow a ha hcell, row', hold row' hrow' b hb hcell', hcell, hcell', hlater⟩

/-- `_validate_new_case` accepts the case. -/
def Valid (env : Env) (case : CaseInstance) (snapshot : OperationalSnapshot) : Prop :=
  ((validateNewCase env case snapshot).run Store.empty).1 = .ok ()

theorem Valid.snapshot_caseId {env : Env} (h : Valid env case snapshot) :
    snapshot.caseId = case.caseId := by
  have hreturns : (validateNewCase env case snapshot).Returns Store.empty ()
      ((validateNewCase env case snapshot).run Store.empty).2 := Prod.ext h rfl
  unfold validateNewCase requireConfiguredMode at hreturns
  simp only [returns_require_bind] at hreturns
  exact hreturns.2.1

theorem returns_presenterCaseTransaction (h : presenterSchema.Holds db) (hl : CaseLineage db)
    (hsnapshot : snapshot.caseId = case.caseId) {granted : Bool} {limit : ℤ}
    {result : PresenterRetentionResult} :
    (presenterCaseTransaction granted now case snapshot limit).Returns db result db' ↔
      granted = true ∧ FreeId db case.caseId ∧ 0 ≤ limit ∧
      ∃ eligible, eligibleCases (presenterRows (withCase db case snapshot now)) = .ok eligible ∧
        case.caseId ∈ eligible ∧
        result.plan = planOf (withCase db case snapshot now) eligible case.caseId limit.toNat ∧
        (result.deletedRows = fun t => (withCase db case snapshot now t).countP
          (owned (withCase db case snapshot now) result.plan.prunedCaseIds t)) ∧
        db' = others (withCase db case snapshot now) result.plan.prunedCaseIds := by
  rw [presenterCaseTransaction, acquirePresenterRetentionLock, returns_require_bind, returns_bind]
  refine and_congr_right fun _ => ?_
  constructor
  · rintro ⟨_, _, hinsert, hrest⟩
    obtain ⟨hfree, rfl⟩ := (returns_insertCaseConnection h hsnapshot).mp hinsert
    have hgains := gains_withCase now h hl hsnapshot hfree
    obtain ⟨plan, _, hplan, hdelete⟩ := returns_bind.mp hrest
    obtain ⟨hlimit, rfl, eligible, heligible, ⟨caseId, hmem, hcurrent, rfl⟩ | ⟨hnone, -⟩⟩ :=
      returns_planPresenterRetention.mp hplan
    · obtain rfl := Option.some.inj hcurrent
      obtain ⟨rfl, rfl⟩ := (returns_deletePresenterAggregates hgains.holds hgains.lineage).mp hdelete
      exact ⟨hfree, hlimit, eligible, heligible, hmem, rfl, rfl, rfl⟩
    · cases hnone
  · rintro ⟨hfree, hlimit, eligible, heligible, hmem, hplan, hdeleted, rfl⟩
    have hgains := gains_withCase now h hl hsnapshot hfree
    refine ⟨(), _, (returns_insertCaseConnection h hsnapshot).mpr ⟨hfree, rfl⟩, ?_⟩
    refine returns_bind.mpr ⟨_, _, returns_planPresenterRetention.mpr
      ⟨hlimit, rfl, eligible, heligible, .inl ⟨_, hmem, rfl, rfl⟩⟩, ?_⟩
    refine (returns_deletePresenterAggregates hgains.holds hgains.lineage).mpr ⟨?_, ?_⟩
    · rw [← hplan, ← hdeleted]
    · rw [← hplan]

/-- The unit of work commits what its transaction returns. -/
theorem returns_createPresenterCase {env : Env} {granted : Bool} {limit : ℤ}
    {exit : Exit PresenterRetentionResult} :
    (createPresenterCase env granted now case snapshot limit).Returns db exit db' ↔
      ∃ result, exit = .commit result ∧ Valid env case snapshot ∧
        (presenterCaseTransaction granted now case snapshot limit).Returns db result db' := by
  unfold createPresenterCase
  rw [returns_connection_ofExcept_bind]
  simp only [returns_bind, returns_tryCatch, pure_eq_done, returns_done]
  constructor
  · rintro ⟨_, hvalid, result, _, hreturns | ⟨e, db₁, -, hraise⟩, rfl, rfl⟩
    · exact ⟨result, rfl, hvalid, hreturns⟩
    · split at hraise <;> exact absurd hraise returns_raise
  · rintro ⟨result, rfl, hvalid, hreturns⟩
    exact ⟨(), hvalid, result, db', .inl hreturns, rfl, rfl⟩

/-- A new presenter case, and what is pruned for it. -/
structure Creates (case : CaseInstance) (snapshot : OperationalSnapshot) (now : Instant)
    (limit : ℤ) (db db' : PresenterDatabase) (result : PresenterRetentionResult) : Prop where
  /-- The newest of the other eligible cases are retained. -/
  plan : ∃ history, NewestFirst db history ∧
    result.plan.retainedCaseIds = case.caseId :: history.take limit.toNat ∧
    result.plan.prunedCaseIds = history.drop limit.toNat
  /-- The rows of the pruned cases are gone, and only these. -/
  rows : ∀ t, db' t = withoutCases db result.plan.prunedCaseIds t ++ newRows case snapshot now t
  deleted : ∀ t, (db t).length =
    (withoutCases db result.plan.prunedCaseIds t).length + result.deletedRows t
  eligible : ∀ caseId, Eligible db' caseId ↔ caseId ∈ result.plan.retainedCaseIds
  holds : presenterSchema.Holds db'
  lineage : CaseLineage db'

theorem namesOnlyCase_of_mem_newRows (hsnapshot : snapshot.caseId = case.caseId)
    (h : row ∈ newRows case snapshot now t) : NamesOnlyCase t row case.caseId := by
  unfold newRows at h
  split at h
  · obtain rfl := List.mem_singleton.mp h
    exact namesOnlyCase_caseRow
  · obtain rfl := List.mem_singleton.mp h
    exact hsnapshot ▸ namesOnlyCase_snapshotRow
  · obtain rfl := List.mem_singleton.mp h
    exact namesOnlyCase_projectionRow
  · cases h

/-- Pruning other cases keeps the new rows, and of the old ones what it would have
kept without them. -/
theorem others_withCase (now : Instant) (h : presenterSchema.Holds db) (hl : CaseLineage db)
    (hsnapshot : snapshot.caseId = case.caseId) (hfree : FreeId db case.caseId)
    (hother : case.caseId ∉ caseIds) (t : TableName) :
    others (withCase db case snapshot now) caseIds t =
      withoutCases db caseIds t ++ newRows case snapshot now t := by
  have hgains := gains_withCase now h hl hsnapshot hfree
  have hiff : ∀ row ∈ withCase db case snapshot now t,
      owned (withCase db case snapshot now) caseIds t row = true ↔
        BelongsToCases (withCase db case snapshot now) caseIds t row :=
    fun row hrow => aggregatePredicate_iff hgains.holds hgains.lineage hrow
  unfold others
  rw [withCase_apply, List.filter_append, ← others_eq_withoutCases h hl]
  congr 1
  · refine List.filter_congr fun row hrow => congrArg (!·) ?_
    rw [Bool.eq_iff_iff, hiff row (hgains.subset t row hrow)]
    refine Iff.trans ?_ (aggregatePredicate_iff h hl hrow).symm
    exact exists_congr fun caseId => and_congr_right fun _ => hgains.belongsTo_iff t row _ hrow
  · refine List.filter_eq_self.mpr fun row hrow => ?_
    rw [Bool.not_eq_true', Bool.eq_false_iff]
    intro hown
    have hmem : row ∈ withCase db case snapshot now t := by
      rw [withCase_apply]
      exact List.mem_append.mpr (.inr hrow)
    obtain ⟨caseId, hin, hb⟩ := (hiff row hmem).mp hown
    have hsame := (namesOnlyCase_of_mem_newRows hsnapshot hrow).belongsTo hb
    exact hother (Value.text.inj hsame ▸ hin)

theorem creates_of_returns (h : presenterSchema.Holds db) (hl : CaseLineage db) {env : Env}
    {granted : Bool} {limit : ℤ} {exit : Exit PresenterRetentionResult}
    (hc : (createPresenterCase env granted now case snapshot limit).Returns db exit db') :
    ∃ result, exit = .commit result ∧ Creates case snapshot now limit db db' result := by
  obtain ⟨result, rfl, hvalid, hreturns⟩ := returns_createPresenterCase.mp hc
  refine ⟨result, rfl, ?_⟩
  have hsnapshot := hvalid.snapshot_caseId
  obtain ⟨-, hfree, -, ids, hids, hmem, hplan, hdeleted, rfl⟩ :=
    (returns_presenterCaseTransaction h hl hsnapshot).mp hreturns
  have hgains := gains_withCase now h hl hsnapshot hfree
  have hnewest := newestFirst_eligibleCases hgains.holds hids
  have hhistory := newestFirst_history hfree hnewest
  have hretained : result.plan.retainedCaseIds = case.caseId ::
      (ids.filter fun caseId => decide (caseId ≠ case.caseId)).take limit.toNat := by
    rw [hplan]
    rfl
  have hpruned : result.plan.prunedCaseIds =
      (ids.filter fun caseId => decide (caseId ≠ case.caseId)).drop limit.toNat := by
    rw [hplan]
    rfl
  have hother : case.caseId ∉ result.plan.prunedCaseIds := by
    rw [hpruned]
    exact fun hin => of_decide_eq_true (List.mem_filter.mp (List.mem_of_mem_drop hin)).2 rfl
  have hrows := others_withCase now h hl hsnapshot hfree hother
  refine ⟨⟨_, hhistory, hretained, hpruned⟩, hrows, fun t => ?_, fun caseId => ?_,
    holds_others hgains.holds hgains.lineage, lineage_others hgains.lineage⟩
  · have hlength := @length_others (withCase db case snapshot now) t result.plan.prunedCaseIds
    rw [hrows t, withCase_apply, List.length_append, List.length_append] at hlength
    have hcount : result.deletedRows t = (db t ++ newRows case snapshot now t).countP
        (owned (withCase db case snapshot now) result.plan.prunedCaseIds t) := by
      rw [hdeleted, ← withCase_apply]
    omega
  · rw [eligible_others hgains.holds hgains.lineage, ← hnewest.mem_iff, hretained, hpruned,
      List.mem_cons]
    have hsplit : ∀ n, caseId ∈ ids.filter (fun caseId => decide (caseId ≠ case.caseId)) ↔
        caseId ∈ (ids.filter fun caseId => decide (caseId ≠ case.caseId)).take n ∨
        caseId ∈ (ids.filter fun caseId => decide (caseId ≠ case.caseId)).drop n := by
      intro n
      rw [← List.mem_append, List.take_append_drop]
    have hdisjoint := List.disjoint_take_drop hhistory.nodup (le_refl limit.toNat)
    by_cases heq : caseId = case.caseId
    · subst heq
      exact iff_of_true ⟨hmem, hpruned ▸ hother⟩ (.inl rfl)
    · have hfilter : caseId ∈ ids ↔ caseId ∈ ids.filter fun caseId => decide (caseId ≠ case.caseId) := by
        rw [List.mem_filter, decide_eq_true_iff, and_iff_left heq]
      rw [hfilter, hsplit limit.toNat]
      constructor
      · rintro ⟨htake | hdrop, hnot⟩
        · exact .inr htake
        · exact absurd hdrop hnot
      · rintro (rfl | htake)
        · exact absurd rfl heq
        · exact ⟨.inl htake, fun hdrop => hdisjoint htake hdrop⟩

/-- Every live showcase row is a readable case. -/
def Readable (db : PresenterDatabase) : Prop :=
  ∀ row ∈ db .caseInstances, row.cell .runtimeMode = some (.text RuntimeMode.live.value) →
    row.cell .purpose = some (.text CasePurpose.showcase.value) → ∃ case, decodeCase row = .ok case

/-- An eligible case under a free id is created. -/
theorem commits_of_eligibleNew (now : Instant) (h : presenterSchema.Holds db) (hl : CaseLineage db) {env : Env}
    {limit : ℤ} (hvalid : Valid env case snapshot) (hnew : EligibleNew case)
    (hfree : FreeId db case.caseId) (hlimit : 0 ≤ limit) (hreadable : Readable db) :
    ∃ result db', (createPresenterCase env true now case snapshot limit).Commits db result db' := by
  have hsnapshot := hvalid.snapshot_caseId
  have hgains := gains_withCase now h hl hsnapshot hfree
  have hall : ∀ row ∈ presenterRows (withCase db case snapshot now),
      ∃ case, decodeCase row = .ok case := by
    intro row hrow
    obtain ⟨hmem, hmode, hpurpose⟩ := mem_presenterRows.mp hrow
    rw [withCase_apply] at hmem
    rcases List.mem_append.mp hmem with hold | hrow
    · exact hreadable row hold hmode hpurpose
    · obtain rfl := List.mem_singleton.mp hrow
      exact ⟨case, rfl⟩
  obtain ⟨ids, hids⟩ : ∃ ids, eligibleCases (presenterRows (withCase db case snapshot now)) = .ok ids :=
    ⟨_, eligibleCases_eq_ok.mpr ⟨hall, rfl⟩⟩
  have hmem := ((newestFirst_eligibleCases hgains.holds hids).mem_iff case.caseId).mpr
    (eligible_withCase.mpr (.inr ⟨hnew, rfl⟩))
  let after := withCase db case snapshot now
  let plan := planOf after ids case.caseId limit.toNat
  exact ⟨⟨plan, fun t => (after t).countP (owned after plan.prunedCaseIds t)⟩, _,
    returns_createPresenterCase.mpr ⟨_, rfl, hvalid, (returns_presenterCaseTransaction h hl hsnapshot).mpr
      ⟨rfl, hfree, hlimit, _, hids, hmem, rfl, rfl, rfl⟩⟩⟩

/-! ### Applying a previewed plan -/

/-- The plan was carried out: the rows that it counted are gone, and only these. -/
structure Applies (plan : PresenterRetentionPlan) (db db' : PresenterDatabase)
    (result : PresenterRetentionResult) : Prop where
  plan_eq : result.plan = plan
  rows : ∀ t, db' t = withoutCases db plan.prunedCaseIds t
  planned : ∀ t, (db t).length =
    (withoutCases db plan.prunedCaseIds t).length + plan.plannedDeletions t
  deleted : ∀ t, result.deletedRows t = plan.plannedDeletions t
  holds : presenterSchema.Holds db'
  lineage : CaseLineage db'

/-- A plan counts the rows of its pruned cases. -/
theorem plannedDeletions_of_returns {currentCaseId : Option String} {limit : ℤ}
    {plan : PresenterRetentionPlan}
    (hplan : (planPresenterRetention currentCaseId limit).Returns db plan db') (t : TableName) :
    plan.plannedDeletions t = (db t).countP (owned db plan.prunedCaseIds t) := by
  obtain ⟨-, -, ids, -, ⟨caseId, -, -, rfl⟩ | ⟨-, -, rfl⟩⟩ := returns_planPresenterRetention.mp hplan
  · rfl
  · refine (List.countP_eq_zero.mpr fun row _ => ?_).symm
    rw [owned_nil]
    exact Bool.false_ne_true

theorem applies_of_returns (h : presenterSchema.Holds db) (hl : CaseLineage db) {granted : Bool}
    {plan : PresenterRetentionPlan} {exit : Exit PresenterRetentionResult}
    (hreturns : (applyPresenterRetention granted plan).Returns db exit db') :
    ∃ result, exit = .commit result ∧ Applies plan db db' result := by
  rw [applyPresenterRetention, acquirePresenterRetentionLock, returns_require_bind] at hreturns
  obtain ⟨current, db₁, hplan, hrest⟩ := returns_bind.mp hreturns.2
  obtain ⟨-, hsame, -⟩ := returns_planPresenterRetention.mp hplan
  rw [hsame] at hplan hrest
  obtain ⟨⟨-, -, hpruned, hcounts⟩, hrest⟩ := returns_require_bind.mp hrest
  obtain ⟨result, _, hdelete, hrest⟩ := returns_bind.mp hrest
  obtain ⟨rfl, rfl⟩ := (returns_deletePresenterAggregates h hl).mp hdelete
  obtain ⟨-, hdone⟩ := returns_require_bind.mp hrest
  obtain ⟨rfl, rfl⟩ := returns_done.mp hdone
  have hplanned : ∀ t, plan.plannedDeletions t =
      (db t).countP (owned db plan.prunedCaseIds t) := by
    intro t
    rw [← hcounts t (TableName.mem_presenterAggregateDeleteOrder t), ← hpruned]
    exact plannedDeletions_of_returns hplan t
  have hrows : others db plan.prunedCaseIds = withoutCases db plan.prunedCaseIds :=
    others_eq_withoutCases h hl
  refine ⟨_, rfl, rfl, fun t => by rw [hrows], fun t => ?_, fun t => (hplanned t).symm,
    holds_others h hl, lineage_others hl⟩
  rw [hplanned, ← hrows]
  exact length_others

/-- A plan that was just previewed is applied. -/
theorem commits_of_preview (h : presenterSchema.Holds db) (hl : CaseLineage db) {limit : ℤ}
    {plan : PresenterRetentionPlan}
    (hplan : (previewPresenterRetention limit).Returns db plan db') :
    ∃ result db'', (applyPresenterRetention true plan).Commits db result db'' := by
  obtain ⟨hlimit, -, ids, hids, hcases⟩ := returns_planPresenterRetention.mp hplan
  have hagain : (planPresenterRetention none (max 0 ((plan.retainedCaseIds.length : ℤ) - 1))).Returns
      db plan db := by
    refine returns_planPresenterRetention.mpr ⟨le_max_left .., rfl, ids, hids, ?_⟩
    rcases hcases with ⟨caseId, hmem, hcurrent, rfl⟩ | hnone
    · refine .inl ⟨caseId, hmem, hcurrent, ?_⟩
      -- as many are retained as there are, or as the limit says
      generalize hhistory : ids.filter (fun id => decide (id ≠ caseId)) = history
      have hsame : ∀ n, planOf db ids caseId n = ⟨caseId, caseId :: history.take n, history.drop n,
          fun t => (db t).countP (owned db (history.drop n) t)⟩ := fun n => by
        rw [← hhistory]
        rfl
      have hlength : (max 0 (((planOf db ids caseId limit.toNat).retainedCaseIds.length : ℤ) -
          1)).toNat = min limit.toNat history.length := by
        rw [hsame, List.length_cons, List.length_take]
        omega
      rw [hlength, hsame, hsame]
      rcases Nat.le_total limit.toNat history.length with hle | hle
      · rw [Nat.min_eq_left hle]
      · rw [Nat.min_eq_right hle, List.take_of_length_le hle, List.drop_eq_nil_of_le hle,
          List.take_length, List.drop_length]
    · exact .inr hnone
  refine ⟨⟨plan, fun t => (db t).countP (owned db plan.prunedCaseIds t)⟩,
    others db plan.prunedCaseIds, ?_⟩
  unfold Commits applyPresenterRetention acquirePresenterRetentionLock
  refine returns_require_bind.mpr ⟨rfl, returns_bind.mpr ⟨plan, db, hagain, ?_⟩⟩
  refine returns_require_bind.mpr ⟨⟨rfl, rfl, rfl, fun _ _ => rfl⟩, returns_bind.mpr
    ⟨_, _, (returns_deletePresenterAggregates h hl).mpr ⟨rfl, rfl⟩, ?_⟩⟩
  refine returns_require_bind.mpr ⟨fun t _ => ?_, returns_done.mpr ⟨rfl, rfl⟩⟩
  exact (plannedDeletions_of_returns hagain t).symm

/-! ### The two units of work -/

/-- In a database with its keys and its lineage, a presenter case is created with
exactly the retention that its plan says, and a plan is applied exactly or not at
all.  The deletions of no plan violate a key. -/
theorem presenterRetention_exact (h : presenterSchema.Holds db) (hl : CaseLineage db) :
    (∀ env granted now case snapshot limit,
      (∀ result db', (createPresenterCase env granted now case snapshot limit).transact db =
        (.ok result, db') → Creates case snapshot now limit db db' result) ∧
      (∀ e db', (createPresenterCase env granted now case snapshot limit).transact db =
        (.error e, db') → db' = db) ∧
      (granted = true → Valid env case snapshot → EligibleNew case → FreeId db case.caseId →
        0 ≤ limit → Readable db → ∃ result db',
          (createPresenterCase env granted now case snapshot limit).transact db = (.ok result, db'))) ∧
    (∀ plan, ∃ result db', (deletePresenterAggregates plan).Returns db result db') ∧
    (∀ granted plan,
      (∀ result db', (applyPresenterRetention granted plan).transact db = (.ok result, db') →
        Applies plan db db' result) ∧
      (∀ e db', (applyPresenterRetention granted plan).transact db = (.error e, db') → db' = db) ∧
      (granted = true → (∃ limit, (previewPresenterRetention limit).Returns db plan db) →
        ∃ result db', (applyPresenterRetention granted plan).transact db = (.ok result, db'))) := by
  refine ⟨fun env granted now case snapshot limit => ⟨fun result db' hret => ?_,
    fun e db' herr => transact_error herr, ?_⟩, fun plan => ?_,
    fun granted plan => ⟨fun result db' hret => ?_, fun e db' herr => transact_error herr, ?_⟩⟩
  · rcases transact_ok hret with hc | ⟨-, s₁, hback⟩
    · obtain ⟨result', hexit, hcreates⟩ := creates_of_returns h hl hc
      obtain rfl := Exit.commit.inj hexit
      exact hcreates
    · obtain ⟨result', hexit, -⟩ := creates_of_returns h hl hback
      cases hexit
  · rintro rfl hvalid hnew hfree hlimit hreadable
    obtain ⟨result, db', hc⟩ := commits_of_eligibleNew now h hl hvalid hnew hfree hlimit hreadable
    exact ⟨result, db', transact_of_commits hc⟩
  · exact ⟨_, _, (returns_deletePresenterAggregates h hl).mpr ⟨rfl, rfl⟩⟩
  · rcases transact_ok hret with hc | ⟨-, s₁, hback⟩
    · obtain ⟨result', hexit, happlies⟩ := applies_of_returns h hl hc
      obtain rfl := Exit.commit.inj hexit
      exact happlies
    · obtain ⟨result', hexit, -⟩ := applies_of_returns h hl hback
      cases hexit
  · rintro rfl ⟨limit, hplan⟩
    obtain ⟨result, db', hc⟩ := commits_of_preview h hl hplan
    exact ⟨result, db', transact_of_commits hc⟩

/-! ### A sample -/

def samplePresenterEnv : Env := { sampleEnv with runtimeMode := .live }

def samplePresenterCase (caseId : String) : CaseInstance :=
  { sampleCase .independentFinance with
    caseId := caseId
    purpose := .showcase
    runtimeMode := .live
    supplierEmail := some
      { tenantId := "tenant", mailboxObjectId := "mailbox", internetMessageId := "<message>",
        reviewFingerprint := "fingerprint", messageId := "id", subject := "Delay",
        sender := "supplier", recipients := ["planner"], receivedAt := 0, reviewedAt := 0,
        citationUrl := "url",
        facts := ⟨10, "part", "plant", 0, 5, 0, 0, 5, none⟩ } }

def samplePresenterSnapshot (caseId : String) : OperationalSnapshot :=
  { sampleSnapshot with caseId := caseId, runtimeMode := .live }

/-- Two cases; the older one has a Decision on an analysis, and a selection that
was selected again. -/
def samplePresenterCells : TableName → List (List (Column × Value) × Payload)
  | .caseInstances =>
    [([(.caseId, .text "old"), (.purpose, .text "showcase"), (.runtimeMode, .text "live"),
        (.recordedAt, .instant 1)], .case (samplePresenterCase "old")),
      ([(.caseId, .text "newer"), (.purpose, .text "showcase"), (.runtimeMode, .text "live"),
        (.recordedAt, .instant 2)], .case (samplePresenterCase "newer"))]
  | .analysisVersions =>
    [([(.analysisId, .text "analysis"), (.caseId, .text "old"), (.runtimeMode, .text "live")],
      .other "")]
  | .caseProposalSelections =>
    [([(.selectionId, .text "first"), (.caseId, .text "old"), (.analysisId, .text "analysis")],
        .other ""),
      ([(.selectionId, .text "second"), (.caseId, .text "old"), (.analysisId, .text "analysis"),
        (.expectedSelectionId, .text "first")], .other "")]
  | .caseProjection =>
    [([(.caseId, .text "old"), (.purpose, .text "showcase"), (.runtimeMode, .text "live"),
      (.currentAnalysisId, .text "analysis"), (.currentSelectionId, .text "second"),
      (.currentDecisionId, .text "decision")], .case (samplePresenterCase "old"))]
  | .decisions =>
    [([(.decisionId, .text "decision"), (.caseId, .text "old"), (.analysisId, .text "analysis"),
      (.runtimeMode, .text "live")], .other "")]
  | .outboxEvents => [([(.eventId, .text "event"), (.decisionId, .text "decision")], .other "")]
  | _ => []

def samplePresenterDatabase : PresenterDatabase :=
  fun t => (samplePresenterCells t).map fun row => ⟨cells row.1, row.2⟩

theorem shaped_cells {values : List (Column × Value)} {payload : Payload}
    (hset : ∀ c ∈ t.columns, c ∉ t.nullable → c ∈ values.map Prod.fst)
    (hcolumns : ∀ c ∈ values.map Prod.fst, c ∈ t.columns) :
    presenterSchema.Shaped t (⟨cells values, payload⟩ : PresenterRow) := by
  have hiff : ∀ c, cells values c ≠ none ↔ c ∈ values.map Prod.fst := by
    intro c
    clear hset hcolumns
    unfold cells
    induction values with
    | nil => simp
    | cons x rest ih =>
      obtain ⟨c', v⟩ := x
      rw [List.lookup_cons, List.map_cons, List.mem_cons]
      by_cases h : c = c'
      · subst h
        simp
      · have hne : (c == c') = false := by simpa using h
        rw [hne, or_iff_right h]
        exact ih
  exact ⟨fun c hc hn => (hiff c).mpr (hset c hc hn), fun c hc => hcolumns c ((hiff c).mp hc)⟩

theorem holds_samplePresenterDatabase : presenterSchema.Holds samplePresenterDatabase where
  shaped t row hrow := by
    obtain ⟨x, hx, rfl⟩ := List.mem_map.mp hrow
    have hall : ∀ x ∈ samplePresenterCells t,
        (∀ c ∈ t.columns, c ∉ t.nullable → c ∈ x.1.map Prod.fst) ∧
          ∀ c ∈ x.1.map Prod.fst, c ∈ t.columns := by
      cases t <;> decide
    exact shaped_cells (hall x hx).1 (hall x hx).2
  unique t := by
    cases t <;> decide
  refers := by
    decide +kernel

theorem lineage_samplePresenterDatabase : CaseLineage samplePresenterDatabase := by
  refine Lineage.of_owner (fun _ row => (row.cell .caseId).or (some (.text "old"))) ?_ ?_
  · intro t row _ v hv
    rw [hv]
    rfl
  · decide +kernel

/-- A new case, without history: both others are pruned. -/
theorem presenterRetention_exact_sample : ∃ result db',
    (createPresenterCase samplePresenterEnv true 3 (samplePresenterCase "new")
      (samplePresenterSnapshot "new") 0).transact samplePresenterDatabase = (.ok result, db') ∧
      Creates (samplePresenterCase "new") (samplePresenterSnapshot "new") 3 0
        samplePresenterDatabase db' result := by
  obtain ⟨hcreate, -⟩ := presenterRetention_exact holds_samplePresenterDatabase
    lineage_samplePresenterDatabase
  obtain ⟨hcreates, -, hreturns⟩ := hcreate samplePresenterEnv true 3 (samplePresenterCase "new")
    (samplePresenterSnapshot "new") 0
  have hreadable : Readable samplePresenterDatabase := by
    intro row hrow _ _
    obtain ⟨x, hx, rfl⟩ := List.mem_map.mp hrow
    rcases List.mem_cons.mp hx with rfl | hx
    · exact ⟨_, rfl⟩
    · obtain rfl := List.mem_singleton.mp hx
      exact ⟨_, rfl⟩
  obtain ⟨result, db', hret⟩ := hreturns rfl rfl ⟨rfl, rfl, nofun⟩ (by decide +kernel) le_rfl hreadable
  exact ⟨result, db', hret, hcreates result db' hret⟩

end SupplyResponse
