/-
The analysis requests of a fallback deployment
(`FallbackAnalysisApplicationService`), and the calls of `record` beside them,
as procedures of several transactions.

* `createAnalysis` — `create`: read the case, save the analysis, project the
  case as it was read;
* `recordDecision` — `record`, with its second transaction.
-/
import SupplyResponse.Services.Decisions
import SupplyResponse.Transact.Process

namespace SupplyResponse

open Transact Transact.Prog

variable (env : Env)

/-- The last transaction of `create`: `save_case_projection` of the case that
the call has read, as awaiting a decision. -/
def projectAnalyzed (case : CaseInstance) (analysis : AnalysisVersion) :
    Process Store Raised AnalysisVersion := do
  Process.transaction (saveCaseProjection env (case.withStatus .awaitingDecision))
  pure analysis

/-- `create`.  `analyze` is `analyze_case` on the fallback snapshot and evidence
of the case, under a fresh analysis id and by the call's clock. -/
def createAnalysis (analyze : CaseInstance → Except Raised AnalysisVersion) (caseId : String)
    (now : Instant) : Process Store Raised AnalysisVersion := do
  let projection ← Process.transaction (Exit.rollback <$> getProjection env caseId)
  let analysis ← Process.ofExcept (analyze projection.case)
  Process.transaction (saveAnalysis env analysis none now)
  projectAnalyzed env projection.case analysis

/-- `record`; a violated unique index leads to the second transaction. -/
def recordDecision (command : RecordDecisionCommand) (actor : IdentitySnapshot)
    (decisionUuid eventUuid : String) (decidedAt : Instant) : Process Store Raised Decision :=
  (Process.transaction
    (recordTransaction env command actor decisionUuid eventUuid decidedAt)).tryCatch fun e =>
      if e.cls = .integrityError then Process.transaction (recordRecovery env command actor)
      else Process.raise e

end SupplyResponse
