/-
The analysis requests of a live deployment (`LiveAnalysisApplicationService`), as
procedures of several transactions.

* `createLive` — `create`: the check for an analysis, the claim, the analysis
  of what the sources report, and its completion, stage by stage;
* `failUnclaimed`, `failClaimed` — its handlers, without and with a claim;
* `waitForWinner` — `_wait_for_winner`, a number of looks at the projection.

The sources, the orchestrator and the checks on what they report do not touch
the store: a request is given what they make of its case.
-/
import SupplyResponse.Persistence.Analyses
import SupplyResponse.Transact.Process

namespace SupplyResponse

open Transact Transact.Prog

/-- What a live analysis request is given: its actor, the fresh id of its claim,
the readings of its clock, the analysis that it makes of its case, and how often it
looks for the analysis of another. -/
structure LiveRequest where
  caseId : String
  tenantId : String
  objectId : String
  claimId : String
  startedAt : Instant
  lease : ℤ := 300
  completedAt : Instant
  supersededAt : Instant
  polls : ℕ
  analyze : CaseInstance → Except Raised AnalysisVersion
  analyze_caseId : ∀ {case analysis}, analyze case = .ok analysis →
    analysis.caseId = case.caseId

/-- The text of a canonical snapshot, as `json.dumps` writes it. -/
abbrev SnapshotText := OperationalSnapshot → String

/-- The exceptions that leave a request: `RuntimeModeConflict`, and
`LiveSourceUnavailable` in the place of every other. -/
inductive LiveFailure
  | runtimeModeConflict (message : String)
  | unavailable
  deriving DecidableEq

section

variable (env : Env)

/-- `get_case`. -/
def getCase (caseId : String) : Sql CaseInstance := CaseProjection.case <$> getProjection env caseId

/-- `get_operational_snapshot`. -/
def getOperationalSnapshot (caseId : String) : Sql OperationalSnapshot := do
  let case ← storedCase caseId
  requireConfiguredMode env case.runtimeMode
  let snapshot ← storedSnapshot caseId
  require (snapshot.runtimeMode = case.runtimeMode)
    ⟨.runtimeModeConflict, "Operational Snapshot runtime does not match Case Instance"⟩
  pure snapshot

/-! ### Store calls and handlers -/

/-- A store call, the handler of its exceptions, and what follows it. -/
def storeCall {α β : Type} (p : Sql (Exit α)) (handler : Raised → Process Store LiveFailure β)
    (next : α → Process Store LiveFailure β) : Process Store LiveFailure β :=
  Process.attempt p >>= fun
    | .ok a => next a
    | .error e => handler e

/-- A store call that only reads. -/
def readCall {α β : Type} (p : Sql α) (handler : Raised → Process Store LiveFailure β)
    (next : α → Process Store LiveFailure β) : Process Store LiveFailure β :=
  storeCall (Exit.rollback <$> p) handler next

/-- `_wait_for_winner`. -/
def waitForWinner (caseId : String) : ℕ → Process Store LiveFailure AnalysisVersion
  | 0 => .raise .unavailable
  | polls + 1 =>
    readCall (getProjection env caseId) (fun _ => .raise .unavailable) fun projection =>
      match projection.currentAnalysisId with
      | some id => readCall (getAnalysis env id) (fun _ => .raise .unavailable) .done
      | none => waitForWinner caseId polls

/-- The handlers of `create` while no claim was asked for. -/
def failUnclaimed (r : LiveRequest) (e : Raised) : Process Store LiveFailure AnalysisVersion :=
  if e.cls = .runtimeModeConflict then .raise (.runtimeModeConflict e.message)
  else if e.cls = .analysisClaimBusy then waitForWinner env r.caseId r.polls
  else .raise .unavailable

/-- The handlers of `create` once a claim was asked for, which is given back; a
failure of that is only logged. -/
def failClaimed (r : LiveRequest) (version : String) (e : Raised) :
    Process Store LiveFailure AnalysisVersion :=
  if e.cls = .runtimeModeConflict then .raise (.runtimeModeConflict e.message)
  else if e.cls = .analysisClaimBusy then waitForWinner env r.caseId r.polls
  else storeCall (releaseAnalysisClaim env r.caseId version r.claimId)
    (fun _ => .raise .unavailable) fun _ => .raise .unavailable

/-! ### The stages of `create` -/

/-- The analysis of the case, and its completion under the claim. -/
def analyzeLive (r : LiveRequest) (case : CaseInstance) (version : String) :
    Process Store LiveFailure AnalysisVersion :=
  match r.analyze case with
  | .error e => failClaimed env r version e
  | .ok analysis =>
    storeCall
      (completeAnalysisClaim env analysis (case.withStatus .awaitingDecision) version r.claimId
        r.completedAt r.supersededAt)
      (failClaimed env r version) .done

/-- The second transaction of `try_claim_analysis`. -/
def takeOverLive (r : LiveRequest) (case : CaseInstance) (version : String) :
    Process Store LiveFailure AnalysisVersion :=
  storeCall (takeOverClaim env r.caseId version r.claimId r.startedAt r.lease)
    (failClaimed env r version) fun granted =>
      if granted then analyzeLive env r case version else waitForWinner env r.caseId r.polls

/-- `try_claim_analysis`, by its first transaction. -/
def claimLive (r : LiveRequest) (case : CaseInstance) (version : String) :
    Process Store LiveFailure AnalysisVersion :=
  storeCall (insertClaim env r.caseId version r.claimId r.startedAt r.lease)
    (fun e =>
      if e.cls = .integrityError then takeOverLive env r case version
      else failClaimed env r version e)
    fun _ => analyzeLive env r case version

variable (dumps : SnapshotText)

/-- The material version of the case. -/
def versionLive (r : LiveRequest) (case : CaseInstance) (snapshot : OperationalSnapshot) :
    Process Store LiveFailure AnalysisVersion :=
  match canonicalOperationalSnapshot snapshot with
  | .error message => failUnclaimed env r ⟨.valueError, message⟩
  | .ok canonical => claimLive env r case (dumps canonical)

/-- The analysis that the case has, or the way to one. -/
def lookUpLive (r : LiveRequest) (case : CaseInstance) (projection : CaseProjection) :
    Process Store LiveFailure AnalysisVersion :=
  match projection.currentAnalysisId with
  | some id => readCall (getAnalysis env id) (failUnclaimed env r) .done
  | none =>
    readCall (getOperationalSnapshot env r.caseId) (failUnclaimed env r)
      (versionLive env dumps r case)

/-- The checks of the case against the mode and the actor. -/
def checkLive (r : LiveRequest) (case : CaseInstance) : Process Store LiveFailure AnalysisVersion :=
  if case.runtimeMode ≠ .live then
    failUnclaimed env r
      ⟨.runtimeModeConflict, "live analysis cannot access a fallback Case"⟩
  else if ∃ email ∈ case.supplierEmail,
      email.tenantId ≠ r.tenantId ∨ email.mailboxObjectId ≠ r.objectId then
    failUnclaimed env r ⟨.valueError, "bound email is outside the authenticated mailbox"⟩
  else readCall (getProjection env r.caseId) (failUnclaimed env r) (lookUpLive env dumps r case)

/-- `create`. -/
def createLive (r : LiveRequest) : Process Store LiveFailure AnalysisVersion :=
  readCall (getCase env r.caseId) (failUnclaimed env r) (checkLive env dumps r)

end

end SupplyResponse
