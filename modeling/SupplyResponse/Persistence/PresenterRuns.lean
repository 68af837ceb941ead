/-
The bounded retention of live presenter cases (`presenter_runs.py`, and its two
transactions in `SqlAlchemyStore`).

* `planPresenterRetention` — the retained and the pruned cases, newest first,
  and the rows that belong to the pruned ones;
* `aggregatePredicate` — which rows of a table are deleted;
* `deletePresenterAggregates` — the deletions, table after table;
* `createPresenterCase`, `applyPresenterRetention` — the units of work.
-/
import SupplyResponse.Persistence.Analyses
import SupplyResponse.Persistence.Schema
import Mathlib.Data.List.Sort

namespace SupplyResponse

open Transact Transact.Prog

/-- A transaction on the rows; its exclusive lock is the only one. -/
abbrev Connection (α : Type) := Prog PresenterDatabase Unit Raised α

/-! ### Statements -/

/-- `INSERT`. -/
def insertPresenterRow (t : TableName) (row : PresenterRow) : Connection Unit :=
  .stmt (fun _ => [])
    (fun view db => if Admits presenterSchema view t row then db.insert t row else db)
    fun view => require (Admits presenterSchema view t row)
      ⟨.integrityError, "UNIQUE or FOREIGN KEY constraint failed"⟩

/-- `DELETE … WHERE`, with its row count.  The keys are checked row by row, in an
order that the statement leaves open. -/
def deleteWhere (t : TableName) (p : PresenterDatabase → PresenterRow → Bool) : Connection ℕ :=
  .stmt (fun _ => [])
    (fun view db =>
      if Unreferenced presenterSchema.foreignKeys view t (p view) then db.delete t (p view) else db)
    fun view =>
      if Unreferenced presenterSchema.foreignKeys view t (p view) then
        .done ((view t).countP (p view))
      else .raise ⟨.integrityError, "FOREIGN KEY constraint failed"⟩

/-- `UPDATE … SET c = NULL WHERE`. -/
def setNullWhere (t : TableName) (c : Column) (p : PresenterDatabase → PresenterRow → Bool) :
    Connection Unit :=
  .stmt (fun _ => []) (fun view db => db.nullify t c (p view)) fun _ => .done ()

/-! ### The predicates -/

/-- `c IN (…)`; NULL is in no list. -/
def cellIn (row : PresenterRow) (c : Column) (values : List Value) : Bool :=
  (row.cell c).any fun v => decide (v ∈ values)

/-- `SELECT key FROM parent WHERE case_id IN (…)`. -/
def selectIds (db : PresenterDatabase) (parent : TableName) (key : Column)
    (caseIds : List String) : List Value :=
  ((db parent).filter fun row => cellIn row .caseId (caseIds.map .text)).filterMap (·.cell key)

/-- `predicates`: the table whose rows a key column names, but for `case_id`. -/
def aggregateParent : Column → Option TableName
  | .analysisId => some .analysisVersions
  | .decisionId => some .decisions
  | .actionId => some .executionActions
  | .playbackId => some .playbacks
  | _ => none

/-- The values that a key column is looked up in. -/
def predicateValues (db : PresenterDatabase) (caseIds : List String) (key : Column) : List Value :=
  match aggregateParent key with
  | some parent => selectIds db parent key caseIds
  | none => caseIds.map .text

/-- The key columns of a table.  Parent primary keys must not match another
aggregate's subquery. -/
def aggregateKeys (t : TableName) : List Column :=
  let keys : List Column :=
    if t ∈ [.caseInstances, .analysisVersions, .decisions, .executionActions, .playbacks] then
      [.caseId]
    else [.caseId, .analysisId, .decisionId, .actionId, .playbackId]
  keys.filter fun key => decide (key ∈ t.columns)

/-- `presenter_aggregate_targets`: the rows of a table that are deleted. -/
def aggregatePredicate (caseIds : List String) (t : TableName) (db : PresenterDatabase)
    (row : PresenterRow) : Bool :=
  (aggregateKeys t).any fun key => cellIn row key (predicateValues db caseIds key)

/-! ### The plan -/

structure PresenterRetentionPlan where
  currentCaseId : String
  retainedCaseIds : List String
  prunedCaseIds : List String
  plannedDeletions : TableName → ℕ := fun _ => 0

structure PresenterRetentionResult where
  plan : PresenterRetentionPlan
  deletedRows : TableName → ℕ

/-- Equal counts in every table. -/
def sameCounts (counts counts' : TableName → ℕ) : Prop :=
  ∀ t ∈ TableName.presenterAggregateDeleteOrder, counts t = counts' t

instance (counts counts' : TableName → ℕ) : Decidable (sameCounts counts counts') :=
  inferInstanceAs (Decidable (∀ t ∈ TableName.presenterAggregateDeleteOrder, _))

/-- Equal plans. -/
def PresenterRetentionPlan.Same (plan plan' : PresenterRetentionPlan) : Prop :=
  plan.currentCaseId = plan'.currentCaseId ∧ plan.retainedCaseIds = plan'.retainedCaseIds ∧
    plan.prunedCaseIds = plan'.prunedCaseIds ∧
    sameCounts plan.plannedDeletions plan'.plannedDeletions

instance (plan plan' : PresenterRetentionPlan) : Decidable (plan.Same plan') :=
  inferInstanceAs (Decidable (_ ∧ _))

/-- `recorded_at` of a case row. -/
def recordedAt (row : PresenterRow) : Instant :=
  match row.cell .recordedAt with
  | some (.instant at_) => at_
  | _ => 0

/-- `case_id` of a case row. -/
def rowCaseId (row : PresenterRow) : String :=
  match row.cell .caseId with
  | some (.text caseId) => caseId
  | _ => ""

/-- `ORDER BY recorded_at DESC, case_id DESC`: the first row comes no later. -/
def NoLater (row row' : PresenterRow) : Prop :=
  recordedAt row' < recordedAt row ∨
    recordedAt row' = recordedAt row ∧ rowCaseId row' ≤ rowCaseId row

instance : DecidableRel NoLater := fun _ _ => inferInstanceAs (Decidable (_ ∨ _))

/-- The rows of live showcase cases, newest first. -/
def presenterRows (db : PresenterDatabase) : List PresenterRow :=
  ((db .caseInstances).filter fun row =>
    decide (row.cell .runtimeMode = some (.text RuntimeMode.live.value) ∧
      row.cell .purpose = some (.text CasePurpose.showcase.value))).insertionSort NoLater

/-- `_decode_case`. -/
def decodeCase (row : PresenterRow) : Except Raised CaseInstance :=
  match row.record with
  | .case value => .ok value
  | _ => .error ⟨.persistenceIntegrityError,
    "immutable case record contains invalid Case Instance JSON"⟩

/-- A live, showcase and supplier-bound case, under its own id. -/
def EligibleCase (row : PresenterRow) (case : CaseInstance) : Prop :=
  case.runtimeMode = .live ∧ case.purpose = .showcase ∧ case.supplierEmail ≠ none ∧
    row.cell .caseId = some (.text case.caseId)

instance (row : PresenterRow) (case : CaseInstance) : Decidable (EligibleCase row case) :=
  inferInstanceAs (Decidable (_ ∧ _))

/-- The ids of the eligible cases, in the order of the rows. -/
def eligibleCases : List PresenterRow → Except Raised (List String)
  | [] => .ok []
  | row :: rest =>
    match decodeCase row with
    | .error e => .error e
    | .ok case =>
      match eligibleCases rest with
      | .error e => .error e
      | .ok ids => .ok (if EligibleCase row case then case.caseId :: ids else ids)

/-- One `SELECT count(*)` for each table. -/
def countTables (caseIds : List String) : List TableName → Connection (TableName → ℕ)
  | [] => .done fun _ => 0
  | t :: rest => do
    let count ← select fun db => (db t).countP (aggregatePredicate caseIds t db)
    let counts ← countTables caseIds rest
    pure (Function.update counts t count)

/-- `count_presenter_aggregate_deletions`. -/
def countPresenterAggregateDeletions (prunedCaseIds : List String) : Connection (TableName → ℕ) :=
  if prunedCaseIds = [] then .done fun _ => 0
  else countTables prunedCaseIds TableName.presenterAggregateDeleteOrder

def Connection.ofExcept {α : Type} : Except Raised α → Connection α
  | .ok a => .done a
  | .error e => .raise e

/-- The plan for a current case. -/
def planAround (currentCaseId : String) (eligible : List String) (historicalLimit : ℤ) :
    Connection PresenterRetentionPlan := do
  require (currentCaseId ∈ eligible)
    ⟨.valueError, "current Case must be live, showcase, and supplier-bound"⟩
  let history := eligible.filter fun caseId => decide (caseId ≠ currentCaseId)
  let pruned := history.drop historicalLimit.toNat
  let counts ← countPresenterAggregateDeletions pruned
  pure ⟨currentCaseId, currentCaseId :: history.take historicalLimit.toNat, pruned, counts⟩

/-- `plan_presenter_retention`. -/
def planPresenterRetention (currentCaseId : Option String) (historicalLimit : ℤ) :
    Connection PresenterRetentionPlan := do
  require (0 ≤ historicalLimit) ⟨.valueError, "historical_limit must be nonnegative"⟩
  let rows ← select presenterRows
  let eligible ← Connection.ofExcept (eligibleCases rows)
  match currentCaseId with
  | some caseId => planAround caseId eligible historicalLimit
  | none =>
    match eligible with
    | [] => pure ⟨"", [], [], fun _ => 0⟩
    | newest :: _ => planAround newest eligible historicalLimit

/-! ### The deletions -/

/-- `presenter_aggregate_delete_statements`, executed one by one. -/
def deleteTables (caseIds : List String) : List TableName → Connection (TableName → ℕ)
  | [] => .done fun _ => 0
  | t :: rest => do
    if t = .caseProposalSelections then
      setNullWhere t .expectedSelectionId (aggregatePredicate caseIds t)
    let rowcount ← deleteWhere t (aggregatePredicate caseIds t)
    let rowcounts ← deleteTables caseIds rest
    pure (Function.update rowcounts t rowcount)

/-- `delete_presenter_aggregates`. -/
def deletePresenterAggregates (plan : PresenterRetentionPlan) :
    Connection PresenterRetentionResult := do
  let deletedRows ←
    if plan.prunedCaseIds = [] then .done fun _ => 0
    else deleteTables plan.prunedCaseIds TableName.presenterAggregateDeleteOrder
  pure ⟨plan, deletedRows⟩

/-! ### Units of work -/

/-- `_acquire_presenter_retention_lock`: the database grants its exclusive lock or
does not. -/
def acquirePresenterRetentionLock (granted : Bool) : Connection Unit :=
  require granted
    ⟨.presenterRetentionLockUnavailable, "could not acquire presenter retention lock"⟩

def cells (values : List (Column × Value)) (c : Column) : Option Value := values.lookup c

/-- The row of a new case in `case_instances`; the database sets `recorded_at`. -/
def caseRow (case : CaseInstance) (now : Instant) : PresenterRow where
  cell := cells [(.caseId, .text case.caseId), (.purpose, .text case.purpose.value),
    (.runtimeMode, .text case.runtimeMode.value), (.recordedAt, .instant now)]
  record := .case case

/-- The row of its snapshot. -/
def snapshotRow (snapshot : OperationalSnapshot) : PresenterRow where
  cell := cells [(.caseId, .text snapshot.caseId),
    (.runtimeMode, .text snapshot.runtimeMode.value)]
  record := .snapshot snapshot

/-- The row of its projection. -/
def projectionRow (case : CaseInstance) : PresenterRow where
  cell := cells [(.caseId, .text case.caseId), (.purpose, .text case.purpose.value),
    (.runtimeMode, .text case.runtimeMode.value)]
  record := .case case

/-- `_insert_case_connection`. -/
def insertCaseConnection (case : CaseInstance) (snapshot : OperationalSnapshot) (now : Instant) :
    Connection Unit := do
  insertPresenterRow .caseInstances (caseRow case now)
  insertPresenterRow .operationalSnapshots (snapshotRow snapshot)
  insertPresenterRow .caseProjection (projectionRow case)

/-- The transaction of `create_presenter_case`. -/
def presenterCaseTransaction (granted : Bool) (now : Instant) (case : CaseInstance)
    (snapshot : OperationalSnapshot) (historicalLimit : ℤ) : Connection PresenterRetentionResult := do
  acquirePresenterRetentionLock granted
  insertCaseConnection case snapshot now
  let plan ← planPresenterRetention (some case.caseId) historicalLimit
  deletePresenterAggregates plan

/-- `create_presenter_case`. -/
def createPresenterCase (env : Env) (granted : Bool) (now : Instant) (case : CaseInstance)
    (snapshot : OperationalSnapshot) (historicalLimit : ℤ := 3) :
    Connection (Exit PresenterRetentionResult) := do
  -- the checks read no table
  Connection.ofExcept ((validateNewCase env case snapshot).run Store.empty).1
  let transaction := presenterCaseTransaction granted now case snapshot historicalLimit
  let result ← transaction.tryCatch fun e =>
    if e.cls = .integrityError then
      .raise ⟨.immutableRecordConflict, s!"case already exists: {case.caseId}"⟩
    else .raise e
  pure (.commit result)

/-- `preview_presenter_retention`. -/
def previewPresenterRetention (historicalLimit : ℤ := 3) : Connection PresenterRetentionPlan :=
  planPresenterRetention none historicalLimit

/-- `apply_presenter_retention`. -/
def applyPresenterRetention (granted : Bool) (plan : PresenterRetentionPlan) :
    Connection (Exit PresenterRetentionResult) := do
  acquirePresenterRetentionLock granted
  let current ← planPresenterRetention none (max 0 ((plan.retainedCaseIds.length : ℤ) - 1))
  let changed : Raised :=
    ⟨.presenterRetentionPlanChanged, "presenter history changed; preview again"⟩
  require (current.Same plan) changed
  let result ← deletePresenterAggregates plan
  require (sameCounts result.deletedRows current.plannedDeletions) changed
  pure (.commit result)

end SupplyResponse
