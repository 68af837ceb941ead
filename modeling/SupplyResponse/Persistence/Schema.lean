/-
The tables of `tables.py` with their keys.

* `TableName`, `Column` — the tables, and the columns that a key names or that
  the retention of presenter cases reads;
* `presenterSchema` — columns, NULLs, primary and foreign keys;
* `PresenterDatabase` — the rows.  What no key names is in the record of a row.
-/
import SupplyResponse.Domain.Cases
import SupplyResponse.Transact.Relational

namespace SupplyResponse

open Transact

inductive TableName
  | caseInstances
  | operationalSnapshots
  | analysisClaims
  | caseProposalSelections
  | caseProjection
  | analysisVersions
  | financeReviewRevisions
  | evidenceItems
  | decisions
  | approvalSatisfactions
  | outboxEvents
  | executionActions
  | actionProjection
  | draftArtifacts
  | supplierEmailDeliveries
  | supplierEmailRevisions
  | executionEvents
  | executionAttempts
  | playbacks
  | outcomeObservations
  deriving DecidableEq, Repr

inductive Column
  | caseId
  | analysisId
  | decisionId
  | actionId
  | playbackId
  | purpose
  | runtimeMode
  | recordedAt
  | materialVersion
  | selectionId
  | financeReviewId
  | financeReviewRevision
  | expectedSelectionId
  | currentAnalysisId
  | currentSelectionId
  | currentDecisionId
  | reviewId
  | revision
  | evidenceId
  | approvalSatisfactionId
  | optionId
  | eventId
  | artifactId
  | emailId
  | executionEventId
  | attemptId
  | observationId
  deriving DecidableEq, Repr

inductive Value
  | text (value : String)
  | integer (value : ℤ)
  | instant (value : Instant)
  deriving DecidableEq

/-- What a row holds beside the columns of the keys: the `payload_json` of a case or
of a snapshot, or anything else as it stands. -/
inductive Payload
  | case (value : CaseInstance)
  | snapshot (value : OperationalSnapshot)
  | other (text : String)
  deriving DecidableEq

namespace TableName

def columns : TableName → List Column
  | caseInstances => [.caseId, .purpose, .runtimeMode, .recordedAt]
  | operationalSnapshots => [.caseId, .runtimeMode]
  | analysisClaims => [.caseId, .materialVersion]
  | caseProposalSelections =>
    [.selectionId, .caseId, .analysisId, .financeReviewId, .financeReviewRevision,
      .expectedSelectionId]
  | caseProjection =>
    [.caseId, .purpose, .runtimeMode, .currentAnalysisId, .currentSelectionId, .currentDecisionId]
  | analysisVersions => [.analysisId, .caseId, .runtimeMode]
  | financeReviewRevisions => [.reviewId, .revision, .caseId, .analysisId, .optionId]
  | evidenceItems => [.evidenceId, .analysisId, .caseId, .runtimeMode]
  | decisions => [.decisionId, .caseId, .analysisId, .runtimeMode]
  | approvalSatisfactions => [.approvalSatisfactionId, .analysisId, .decisionId, .optionId]
  | outboxEvents => [.eventId, .decisionId]
  | executionActions => [.actionId, .caseId, .decisionId]
  | actionProjection => [.actionId, .caseId, .decisionId]
  | draftArtifacts => [.artifactId, .actionId, .decisionId]
  | supplierEmailDeliveries => [.emailId, .decisionId]
  | supplierEmailRevisions => [.emailId, .revision, .decisionId, .actionId]
  | executionEvents => [.executionEventId, .actionId, .decisionId]
  | executionAttempts => [.attemptId, .actionId, .decisionId]
  | playbacks => [.playbackId, .caseId, .decisionId]
  | outcomeObservations => [.observationId, .caseId, .decisionId, .playbackId, .actionId]

/-- The columns that are not declared `nullable=False`. -/
def nullable : TableName → List Column
  | caseProposalSelections => [.financeReviewId, .financeReviewRevision, .expectedSelectionId]
  | caseProjection => [.currentAnalysisId, .currentSelectionId, .currentDecisionId]
  | approvalSatisfactions => [.decisionId]
  | outcomeObservations => [.playbackId, .actionId]
  | _ => []

def primaryKey : TableName → List Column
  | caseInstances => [.caseId]
  | operationalSnapshots => [.caseId]
  | analysisClaims => [.caseId, .materialVersion]
  | caseProposalSelections => [.selectionId]
  | caseProjection => [.caseId]
  | analysisVersions => [.analysisId]
  | financeReviewRevisions => [.reviewId, .revision]
  | evidenceItems => [.evidenceId, .analysisId]
  | decisions => [.decisionId]
  | approvalSatisfactions => [.approvalSatisfactionId]
  | outboxEvents => [.eventId]
  | executionActions => [.actionId]
  | actionProjection => [.actionId]
  | draftArtifacts => [.artifactId]
  | supplierEmailDeliveries => [.emailId]
  | supplierEmailRevisions => [.emailId, .revision]
  | executionEvents => [.executionEventId]
  | executionAttempts => [.attemptId]
  | playbacks => [.playbackId]
  | outcomeObservations => [.observationId]

/-- `ForeignKey("case_instances.case_id")` of the column `case_id`. -/
def toCase (t : TableName) : ForeignKey TableName Column :=
  ⟨t, [(.caseId, .caseId)], .caseInstances⟩

/-- `ForeignKey("analysis_versions.analysis_id")` of a column. -/
def toAnalysis (t : TableName) (c : Column := .analysisId) : ForeignKey TableName Column :=
  ⟨t, [(c, .analysisId)], .analysisVersions⟩

/-- `ForeignKey("decisions.decision_id")` of a column. -/
def toDecision (t : TableName) (c : Column := .decisionId) : ForeignKey TableName Column :=
  ⟨t, [(c, .decisionId)], .decisions⟩

/-- `ForeignKey("execution_actions.action_id")` of the column `action_id`. -/
def toAction (t : TableName) : ForeignKey TableName Column :=
  ⟨t, [(.actionId, .actionId)], .executionActions⟩

/-- `ForeignKey("case_proposal_selections.selection_id")` of a column. -/
def toSelection (t : TableName) (c : Column) : ForeignKey TableName Column :=
  ⟨t, [(c, .selectionId)], .caseProposalSelections⟩

/-- The foreign keys of a table, in the order of its columns. -/
def foreignKeys : TableName → List (ForeignKey TableName Column)
  | caseInstances => []
  | operationalSnapshots => [toCase operationalSnapshots]
  | analysisClaims => [toCase analysisClaims]
  | caseProposalSelections =>
    [toCase caseProposalSelections, toAnalysis caseProposalSelections,
      toSelection caseProposalSelections .expectedSelectionId,
      ⟨caseProposalSelections, [(.financeReviewId, .reviewId), (.financeReviewRevision, .revision)],
        financeReviewRevisions⟩]
  | caseProjection =>
    [toCase caseProjection, toAnalysis caseProjection .currentAnalysisId,
      toSelection caseProjection .currentSelectionId, toDecision caseProjection .currentDecisionId]
  | analysisVersions => [toCase analysisVersions]
  | financeReviewRevisions => [toCase financeReviewRevisions, toAnalysis financeReviewRevisions]
  | evidenceItems => [toAnalysis evidenceItems, toCase evidenceItems]
  | decisions => [toCase decisions, toAnalysis decisions]
  | approvalSatisfactions => [toAnalysis approvalSatisfactions, toDecision approvalSatisfactions]
  | outboxEvents => [toDecision outboxEvents]
  | executionActions => [toCase executionActions, toDecision executionActions]
  -- `case_id` of this one is declared without a key
  | actionProjection => [toAction actionProjection, toDecision actionProjection]
  | draftArtifacts => [toAction draftArtifacts, toDecision draftArtifacts]
  | supplierEmailDeliveries => [toDecision supplierEmailDeliveries]
  | supplierEmailRevisions => [toDecision supplierEmailRevisions, toAction supplierEmailRevisions]
  | executionEvents => [toAction executionEvents, toDecision executionEvents]
  | executionAttempts => [toAction executionAttempts, toDecision executionAttempts]
  | playbacks => [toCase playbacks, toDecision playbacks]
  | outcomeObservations =>
    [toCase outcomeObservations, toDecision outcomeObservations,
      ⟨outcomeObservations, [(.playbackId, .playbackId)], playbacks⟩, toAction outcomeObservations]

/-- `PRESENTER_AGGREGATE_DELETE_ORDER`. -/
def presenterAggregateDeleteOrder : List TableName :=
  [caseProjection, outcomeObservations, supplierEmailRevisions, supplierEmailDeliveries,
    draftArtifacts, executionAttempts, executionEvents, actionProjection, playbacks, outboxEvents,
    approvalSatisfactions, executionActions, caseProposalSelections, financeReviewRevisions,
    decisions, evidenceItems, analysisVersions, analysisClaims, operationalSnapshots, caseInstances]

/-- All tables are in the order. -/
theorem mem_presenterAggregateDeleteOrder (t : TableName) : t ∈ presenterAggregateDeleteOrder := by
  cases t <;> decide

end TableName

def presenterSchema : Schema TableName Column where
  columns := TableName.columns
  nullable := TableName.nullable
  primaryKey := TableName.primaryKey
  foreignKeys := TableName.presenterAggregateDeleteOrder.flatMap TableName.foreignKeys

abbrev PresenterRow := Row Column Value Payload

abbrev PresenterDatabase := Database TableName Column Value Payload

/-- The case of a row, by its `case_id` or by what it refers to. -/
abbrev BelongsToCase (db : PresenterDatabase) (t : TableName) (row : PresenterRow) (caseId : String) :
    Prop :=
  BelongsTo presenterSchema.foreignKeys .caseId db t row (.text caseId)

/-- Every row that names an analysis, a decision, an action or a playback belongs
to the case of its parent. -/
abbrev CaseLineage (db : PresenterDatabase) : Prop :=
  Lineage presenterSchema.foreignKeys .caseId db

/-! ### What the keys of the schema are -/

theorem mem_foreignKeys {fk : ForeignKey TableName Column} :
    fk ∈ presenterSchema.foreignKeys ↔ ∃ t, fk ∈ TableName.foreignKeys t := by
  unfold presenterSchema
  simp only [List.mem_flatMap]
  exact ⟨fun ⟨t, _, h⟩ => ⟨t, h⟩,
    fun ⟨t, h⟩ => ⟨t, TableName.mem_presenterAggregateDeleteOrder t, h⟩⟩

/-- Foreign keys name primary keys. -/
theorem foreignKeys_name_primaryKeys : ∀ fk ∈ presenterSchema.foreignKeys,
    fk.columns.map Prod.snd = presenterSchema.primaryKey fk.parent := by
  decide

end SupplyResponse
