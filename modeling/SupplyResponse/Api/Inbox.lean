/-
The creation of a case from a reviewed supplier email (`routes/inbox.py`).

* `InboundCall` — a request, with what the mailbox and the operational data answer;
* `inboundCaseId` — the id of the case, a digest of its key;
* `readCase` — the checks of `get_case` and `get_projection`;
* `createInboundCase` — look-up, insert, conflict re-check and response, each of
  which is an action of its own.
-/
import SupplyResponse.Api.Auth
import SupplyResponse.Persistence.PresenterRuns

namespace SupplyResponse

open Transact Transact.Prog

inductive InboxFailure
  | inbound (code : String)
  | authenticationRequired
  | other
  deriving DecidableEq, Repr

/-- Status and code of the HTTP answer. -/
def InboxFailure.answer : InboxFailure → ℕ × String
  | inbound code =>
    match [("INBOUND_EMAIL_CHANGED", 409), ("INBOUND_EMAIL_CONFLICT", 409),
      ("INBOUND_EMAIL_UNSUPPORTED", 422)].lookup code with
    | some status => (status, code)
    | none => (503, "INBOUND_EMAIL_UNAVAILABLE")
  | authenticationRequired => (401, "AUTHENTICATION_REQUIRED")
  | other => (503, "INBOUND_EMAIL_UNAVAILABLE")

/-! ### Requests -/

/-- `PRESENTER_RUN_PATTERN`. -/
def IsPresenterRunId (s : String) : Prop :=
  s.toList.take 7 = "RL-RUN-".toList ∧ s.toList.length = 39 ∧
    (s.toList.drop 7).all isLowerHexDigit = true

instance (s : String) : Decidable (IsPresenterRunId s) := inferInstanceAs (Decidable (_ ∧ _))

structure CreateInboundCaseRequest where
  presenterRunId : String
  internetMessageId : String
  reviewFingerprint : String
  valid : IsPresenterRunId presenterRunId ∧
    (3 ≤ internetMessageId.length ∧ internetMessageId.length ≤ 998) ∧ IsSha256 reviewFingerprint

/-- The services of the application that the route uses. -/
structure InboxServices where
  env : Env
  inboxService : Bool
  liveOperationalData : Bool
  independentFinanceEnabled : Bool
  /-- `hashlib.sha256(text.encode()).hexdigest()`. -/
  sha256 : String → String

/-- A request, and what it is answered from outside: the reviewed email, the live
operational data, the database lock and the time of the insertion. -/
structure InboundCall where
  request : CreateInboundCaseRequest
  actor : Option AuthenticatedActor
  review : Except InboxFailure SupplierEmailSource
  retrieve : String → Except InboxFailure (CaseInstance × OperationalSnapshot)
  granted : Bool
  now : Instant

/-! ### Keys -/

/-- What a case is created once for. -/
structure InboundKey where
  tenantId : String
  mailboxObjectId : String
  internetMessageId : String
  presenterRunId : String
  deriving DecidableEq

def SupplierEmailSource.key (source : SupplierEmailSource) (presenterRunId : String) :
    InboundKey :=
  ⟨source.tenantId, source.mailboxObjectId, source.internetMessageId, presenterRunId⟩

/-- The `key` of the route. -/
def InboundKey.text (key : InboundKey) : String :=
  Text.dumpsTexts
    [key.tenantId, key.mailboxObjectId, key.internetMessageId, key.presenterRunId]

def inboundCaseId (services : InboxServices) (key : InboundKey) : String :=
  "RL-INBOUND-" ++ services.sha256 key.text

/-! ### Reading a case -/

/-- The row of a table under a primary key `case_id`. -/
def rowOfCase (db : PresenterDatabase) (t : TableName) (caseId : String) : Option PresenterRow :=
  (db t).find? fun row => decide (row.cell .caseId = some (.text caseId))

/-- The columns of a case row agree with its record. -/
def CellsMatch (row : PresenterRow) (case : CaseInstance) : Prop :=
  row.cell .caseId = some (.text case.caseId) ∧
    row.cell .purpose = some (.text case.purpose.value) ∧
    row.cell .runtimeMode = some (.text case.runtimeMode.value)

instance (row : PresenterRow) (case : CaseInstance) : Decidable (CellsMatch row case) :=
  inferInstanceAs (Decidable (_ ∧ _))

def missingCase (caseId : String) : Raised :=
  ⟨.recordNotFound, "case does not exist: " ++ caseId⟩

/-- `_stored_case`. -/
def readStoredCase (db : PresenterDatabase) (caseId : String) : Except Raised CaseInstance :=
  match rowOfCase db .caseInstances caseId with
  | none => .error (missingCase caseId)
  | some row =>
    match decodeCase row with
    | .error e => .error e
    | .ok case =>
      if CellsMatch row case then .ok case
      else .error ⟨.persistenceIntegrityError,
        "immutable case columns conflict with canonical Case Instance JSON"⟩

/-- The projection row of a case with its record: `get_case`, and the checks of
`get_projection`. -/
def readCase (env : Env) (db : PresenterDatabase) (caseId : String) :
    Except Raised (PresenterRow × CaseInstance) :=
  match rowOfCase db .caseProjection caseId with
  | none => .error (missingCase caseId)
  | some row => do
    let case ← decodeCase row
    let stored ← readStoredCase db caseId
    if CellsMatch row case ∧ case.SameProvenance stored then
      if case.runtimeMode = env.runtimeMode then .ok (row, case)
      else .error ⟨.runtimeModeConflict, "store is configured for another runtime_mode"⟩
    else .error ⟨.persistenceIntegrityError,
      "case projection conflicts with immutable Case Instance provenance"⟩

/-- A read in a transaction of its own. -/
def readOnce {α : Type} (f : PresenterDatabase → Except Raised α) : Connection (Exit α) := do
  let result ← select f
  let a ← Connection.ofExcept result
  pure (.rollback a)

/-! ### The route -/

abbrev InboxProcess := Process PresenterDatabase InboxFailure

section Route

variable (services : InboxServices) (call : InboundCall)

/-- The guards and the review, up to the id of the case. -/
def reviewedSource : Except InboxFailure SupplierEmailSource := do
  if services.env.runtimeMode ≠ .live ∨ services.inboxService = false ∨
      services.liveOperationalData = false then .error .other
  else
    match call.actor with
    | none => .error .authenticationRequired
    | some actor =>
      let source ← call.review
      if source.tenantId ≠ actor.tenantId ∨ source.mailboxObjectId ≠ actor.objectId ∨
          source.internetMessageId ≠ call.request.internetMessageId then
        .error (.inbound "INBOUND_EMAIL_CONFLICT")
      else if source.reviewFingerprint ≠ call.request.reviewFingerprint then
        .error (.inbound "INBOUND_EMAIL_CHANGED")
      else .ok source

/-- The comparisons of `_matching_case` with a saved case. -/
def compareCase (case : CaseInstance) (source : SupplierEmailSource) (presenterRunId : String) :
    Except InboxFailure Unit :=
  match case.supplierEmail with
  | none => .error (.inbound "INBOUND_EMAIL_CONFLICT")
  | some saved =>
    if case.runtimeMode ≠ .live ∨ case.presenterRunId ≠ some presenterRunId ∨
        (saved.tenantId, saved.mailboxObjectId, saved.internetMessageId) ≠
          (source.tenantId, source.mailboxObjectId, source.internetMessageId) then
      .error (.inbound "INBOUND_EMAIL_CONFLICT")
    else if saved.reviewFingerprint ≠ source.reviewFingerprint then
      .error (.inbound "INBOUND_EMAIL_CHANGED")
    else if saved.facts ≠ source.facts then .error (.inbound "INBOUND_EMAIL_CONFLICT")
    else .ok ()

/-- What `_matching_case` makes of the answer of `get_case`. -/
def matchedAnswer (source : SupplierEmailSource) (presenterRunId : String) :
    Except Raised (PresenterRow × CaseInstance) → Except InboxFailure Bool
  | .error e => if e.cls = .recordNotFound then .ok false else .error .other
  | .ok (_, case) => (compareCase case source presenterRunId).map fun _ => true

/-- `_matching_case`. -/
def matchingCase (caseId : String) (source : SupplierEmailSource) : InboxProcess Bool := do
  let answer ← Process.attempt (readOnce fun db => readCase services.env db caseId)
  Process.ofExcept (matchedAnswer source call.request.presenterRunId answer)

/-- `validate_supplier_facts`. -/
def validateSupplierFacts (facts : SupplierDisruptionFacts) (snapshot : OperationalSnapshot) :
    Except InboxFailure Unit :=
  let disruption := snapshot.disruption
  match snapshot.alphaExpedite with
  | none => .error (.inbound "INBOUND_EMAIL_CONFLICT")
  | some option =>
    if disruption.supplierId ≠ "RL-SUP-ALPHA" ∨ facts.partId ≠ disruption.partId ∨
        facts.plantName ≠ "Chicago" ∨ disruption.plantId ≠ "RL-PLANT-CHI" ∨
        facts.originalQuantity ≠ disruption.originalQuantity ∨
        facts.originalDueDate ≠ disruption.originalDueDate ∨
        disruption.partialQuantity ≠ 0 ∨ disruption.partialDueDate ≠ none ∨
        facts.recoveryDate ≠ disruption.recoveryDate ∨ facts.recoveryDate ≠ none ∨
        (facts.remainingQuantity : ℤ) ≠ facts.originalQuantity - facts.partialQuantity ∨
        option.supplierId ≠ disruption.supplierId ∨ option.partId ≠ disruption.partId ∨
        option.plantId ≠ disruption.plantId ∨ option.quantity ≠ facts.partialQuantity ∨
        option.dueDate ≠ facts.partialDueDate ∨
        option.incrementalCostPerUnit ≠ facts.additionalCostPerUnit then
      .error (.inbound "INBOUND_EMAIL_CONFLICT")
    else .ok ()

/-- The new case with its snapshot, from the live operational data. -/
def newCase (caseId : String) (source : SupplierEmailSource) :
    Except InboxFailure (CaseInstance × OperationalSnapshot) := do
  let live ← call.retrieve caseId
  if live.1.caseId ≠ caseId ∨ live.1.runtimeMode ≠ .live ∨ live.1.purpose ≠ .showcase then
    .error (.inbound "INBOUND_EMAIL_CONFLICT")
  else
    let _ ← validateSupplierFacts source.facts live.2
    .ok ({ live.1 with
      supplierEmail := some source
      presenterRunId := some call.request.presenterRunId
      workflowVersion := if services.independentFinanceEnabled then some .independentFinance
        else live.1.workflowVersion }, live.2)

/-- The second `_matching_case`, behind a conflict. -/
def recheckCase (caseId : String) (source : SupplierEmailSource) : InboxProcess Unit := do
  let matched ← matchingCase services call caseId source
  Process.check (matched = true) (.inbound "INBOUND_EMAIL_CONFLICT")

/-- What follows the answer of `create_presenter_case`. -/
def createdAnswer (caseId : String) (source : SupplierEmailSource) :
    Except Raised PresenterRetentionResult → InboxProcess Unit
  | .ok _ => pure ()
  | .error e =>
    if e.cls = .immutableRecordConflict then recheckCase services call caseId source
    else .raise .other

/-- The branch without a matching case. -/
def insertCase (caseId : String) (source : SupplierEmailSource) : InboxProcess Unit := do
  let live ← Process.ofExcept (newCase services call caseId source)
  let created ← Process.attempt
    (createPresenterCase services.env call.granted call.now live.1 live.2)
  createdAnswer services call caseId source created

/-- The fields of `CaseResponse` that a new case has. -/
structure CaseResponse where
  case : CaseInstance
  currentAnalysisId : Option Value
  currentDecisionId : Option Value
  recordedAt : Instant
  deriving DecidableEq

/-- A read that the response needs. -/
def required {α : Type} (f : PresenterDatabase → Except Raised α) : InboxProcess α := do
  let answer ← Process.attempt (readOnce f)
  Process.ofExcept (answer.mapError fun _ => .other)

/-- `case_recorded_at` and `projection_updated_at`: a timestamp of a row that is there. -/
def requireRow (db : PresenterDatabase) (t : TableName) (caseId : String) :
    Except Raised PresenterRow :=
  (rowOfCase db t caseId).elim (.error (missingCase caseId)) .ok

/-- The rest of `case_response` behind its projection. -/
def finishResponse (caseId : String) (projection : PresenterRow × CaseInstance) :
    InboxProcess CaseResponse := do
  let row ← required fun db => requireRow db .caseInstances caseId
  let _ ← required fun db => requireRow db .caseProjection caseId
  pure ⟨projection.2, projection.1.cell .currentAnalysisId,
    projection.1.cell .currentDecisionId, recordedAt row⟩

/-- `case_response`. -/
def caseResponse (caseId : String) : InboxProcess CaseResponse := do
  let projection ← required fun db => readCase services.env db caseId
  finishResponse caseId projection

/-- The part of the route behind the review. -/
def createOrMatch (caseId : String) (source : SupplierEmailSource) :
    InboxProcess CaseResponse := do
  let matched ← matchingCase services call caseId source
  (if matched then pure () else insertCase services call caseId source : InboxProcess Unit)
  caseResponse services caseId

/-- `create_inbound_case`. -/
def createInboundCase : InboxProcess CaseResponse := do
  let source ← Process.ofExcept (reviewedSource services call)
  createOrMatch services call
    (inboundCaseId services (source.key call.request.presenterRunId)) source

end Route

end SupplyResponse
