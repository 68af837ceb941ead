/-
Evidence from a Work IQ agent (`normalizer.py`).

* `trustedUrl`, `citation?`, `factItem` — one fact with its citation;
* `Gathered` — what the loops over artifacts, parts and facts collect;
* `normalizeA2aEvidence` — the evidence items of a payload, with their lineage.
-/
import SupplyResponse.Domain.Evidence
import SupplyResponse.Text.Json
import SupplyResponse.Text.Url

namespace SupplyResponse

open Text (Json SplitUrl)

inductive WorkIqFailure
  | protocol (message : String)
  | responseLimit (message : String)
  | valueError (message : String)
  | unhashable
  deriving DecidableEq, Repr

/-- The library functions that the texts of a payload go through. -/
structure NormalizerServices where
  unicode : Text.Unicode
  /-- What `ipaddress.ip_address` takes for an IPv6 address. -/
  isIpv6 : String → Bool
  /-- `datetime.fromisoformat`; the inner option is `none` for a time without a zone. -/
  fromisoformat : String → Option ClockReading

/-- The arguments of `normalize_a2a_evidence` besides the payload. -/
structure NormalizerRequest where
  caseId : String
  analysisId : String
  retrievedAt : Instant
  expectedSourceId : String
  expectedAuthorityScope : AuthorityScope
  tenantSharepointHost : String

/-- `WorkIQRetrievalLineage`, of the `a2a` protocol. -/
structure RetrievalLineage where
  contextId : String
  taskId : String
  artifactIds : List String
  sourceIds : List String

structure WorkIqRetrieval where
  evidence : List EvidenceItem
  lineage : RetrievalLineage

def expect (c : Prop) [Decidable c] (e : WorkIqFailure) : Except WorkIqFailure Unit :=
  if c then .ok () else .error e

theorem expect_eq_ok {c : Prop} [Decidable c] {e : WorkIqFailure} {u : Unit} :
    expect c e = .ok u ↔ c := by
  unfold expect
  split <;> simp_all

/-! ### Texts, times and URLs -/

def maxFacts : ℕ := 128

def maxTextChars : ℕ := 32768

def allowedExactHosts : List String :=
  ["teams.microsoft.com", "outlook.office.com", "outlook.office365.com"]

def allowedScopes : List (String × AuthorityScope) :=
  [("supplier_statement", .supplierStatement), ("collaboration_statement", .collaborationStatement)]

/-- `_bounded_string(value, label)`. -/
def boundedString (value : Json) (label : String) : Except WorkIqFailure String :=
  match value.text? with
  | some text =>
    if maxTextChars < text.length then
      .error (.responseLimit ("Work IQ " ++ label ++ " exceeds size limit"))
    else if Nonblank text then .ok (strip text)
    else .error (.protocol ("Work IQ " ++ label ++ " is malformed"))
  | none => .error (.protocol ("Work IQ " ++ label ++ " is malformed"))

/-- `_bounded_string(value, label, required=False)`. -/
def boundedOptional (value : Json) (label : String) : Except WorkIqFailure (Option String) :=
  if value.isNull then .ok none else (boundedString value label).map some

/-- `_timestamp`. -/
def timestamp (services : NormalizerServices) (value : Json) : Option Instant :=
  value.text?.bind fun text => (services.fromisoformat text).join

/-- `value.rstrip(".")`. -/
def rstripDots (s : String) : String :=
  String.ofList ((s.toList.reverse.dropWhile (· == '.')).reverse)

/-- `_trusted_url`. -/
def trustedUrl (services : NormalizerServices) (tenantHost : String) (value : Json) :
    Option String := do
  let text ← value.text?
  guard (text.length ≤ 4096)
  let parsed ← Text.urlsplitText services.unicode services.isIpv6 text.toList
  let port ← parsed.portOf
  let hostname := services.unicode.lower (parsed.hostText services.unicode)
  let host := rstripDots hostname
  guard (parsed.scheme = "https".toList ∧ hostname = host ∧
    (host ∈ allowedExactHosts ∨ host = tenantHost) ∧ parsed.path ≠ [] ∧
    parsed.hasUserinfo = false ∧ (port = none ∨ port = some 443))
  pure text

/-- The tenant host as the loop compares with it. -/
def normalizedHost (services : NormalizerServices) (tenantHost : String) : String :=
  rstripDots (services.unicode.lower (strip tenantHost))

/-- `_citation`: the citation itself, or the only one of a list. -/
def citation? (fact : Json) : Option Json :=
  if (fact.get "citation").isDict then some (fact.get "citation")
  else
    match (fact.get "citations").list? with
    | some [candidate] => if candidate.isDict then some candidate else none
    | _ => none

/-- `citation.get(key) if citation else None`. -/
def cited (fact : Json) (key : String) : Json := ((citation? fact).getD .null).get key

/-! ### Items -/

/-- An item with what all items of a retrieval share; its trust is decided by the caller. -/
def retrievedItem (request : NormalizerRequest) (evidenceId sourceId claim : String) :
    EvidenceItem where
  evidenceId := evidenceId
  caseId := request.caseId
  kind := .contextualEvidence
  authorityScope := []
  sourceSystem := .workIq
  sourceId := sourceId
  sourceTimestamp := none
  retrievedAt := some request.retrievedAt
  retrievedForAnalysisId := request.analysisId
  retrievalHealth := .healthy
  effectiveAt := none
  expiresAt := none
  claim := claim
  excerpt := none
  citationUrl := none
  runtimeMode := .live
  synthetic := false
  requirement := .contextual
  uncertaintyState := .uncertain
  citationClassification := none
  navigableCitationUrl := none
  citationTrustedHost := none

/-- `source_kind in {"microsoft365", "tenant"}`. -/
def knownSourceType (value : Json) : Except WorkIqFailure Bool :=
  if value.hashable then .ok (value.text?.any fun text => text ∈ ["microsoft365", "tenant"])
  else .error .unhashable

/-- The scope that a fact names, if a fact can be trusted in it. -/
def factScope (fact : Json) : Option AuthorityScope :=
  (fact.get "authorityScope").text?.bind fun name => allowedScopes.lookup name

/-- `trusted`; the source type is only looked at behind the other conditions. -/
def factTrusted (services : NormalizerServices) (request : NormalizerRequest) (fact : Json)
    (citationUrl sourceId excerpt : Option String) : Except WorkIqFailure Bool :=
  if citationUrl.any (· ≠ "") ∧ sourceId.any (· ≠ "") ∧ excerpt.any (· ≠ "") ∧
      (timestamp services (fact.get "sourceTimestamp")).isSome ∧
      sourceId = some (strip request.expectedSourceId) ∧
      factScope fact = some request.expectedAuthorityScope then
    knownSourceType (cited fact "sourceType")
  else .ok false

/-- `_fact_item`. -/
def factItem (services : NormalizerServices) (request : NormalizerRequest) (tenantHost : String)
    (artifactId : String) (partIndex factIndex : ℕ) (fact : Json) :
    Except WorkIqFailure EvidenceItem := do
  let claim ← boundedString (fact.get "claim") "fact claim"
  let factId ← boundedOptional (fact.get "factId") "fact ID"
  let citationUrl := trustedUrl services tenantHost (cited fact "url")
  let sourceId ← boundedOptional (cited fact "sourceId") "citation source ID"
  let excerpt ← boundedOptional (cited fact "excerpt") "citation excerpt"
  let trusted ← factTrusted services request fact citationUrl sourceId excerpt
  pure { retrievedItem request
      (factId.getD (artifactId ++ ":part:" ++ toString partIndex ++ ":fact:" ++ toString factIndex))
      (sourceId.getD artifactId) claim with
    kind := if trusted then .sourceStatement else .contextualEvidence
    authorityScope := if trusted then (factScope fact).toList else []
    sourceTimestamp := timestamp services (fact.get "sourceTimestamp")
    effectiveAt := timestamp services (fact.get "effectiveAt")
    expiresAt := timestamp services (fact.get "expiresAt")
    excerpt := if trusted then excerpt else none
    citationUrl := if trusted then citationUrl else none
    requirement := if trusted then .requiredAuthoritative else .contextual
    uncertaintyState := if trusted then .certain else .uncertain }

/-- `_contextual_text_item`. -/
def contextualTextItem (request : NormalizerRequest) (artifactId : String) (partIndex : ℕ)
    (text : String) : EvidenceItem :=
  retrievedItem request (artifactId ++ ":text:" ++ toString partIndex) artifactId text

/-! ### The loops -/

/-- The collections that grow in the loops. -/
structure Gathered where
  items : List EvidenceItem
  artifactIds : List String
  explicitFactIds : List String
  evidenceIds : List String
  citationSources : List (String × String)
  sourceIds : List String

namespace Gathered

def empty : Gathered := ⟨[], [], [], [], [], []⟩

/-- Adds an item under an id that is still free. -/
def add (gathered : Gathered) (item : EvidenceItem) : Except WorkIqFailure Gathered := do
  expect (item.evidenceId ∉ gathered.evidenceIds) (.protocol "duplicate Work IQ evidence ID")
  pure { gathered with
    evidenceIds := gathered.evidenceIds ++ [item.evidenceId]
    items := gathered.items ++ [item] }

def addFactId (gathered : Gathered) (fact : Json) : Except WorkIqFailure Gathered := do
  match ← boundedOptional (fact.get "factId") "fact ID" with
  | none => pure gathered
  | some factId =>
    expect (factId ∉ gathered.explicitFactIds) (.protocol "duplicate Work IQ fact ID")
    pure { gathered with explicitFactIds := gathered.explicitFactIds ++ [factId] }

/-- Registers a source with its URL, or checks the URL it is registered with. -/
def addSource (gathered : Gathered) (sourceId url : String) : Except WorkIqFailure Gathered :=
  match gathered.citationSources.lookup sourceId with
  | some prior =>
    if prior = url then .ok gathered
    else .error (.protocol "ambiguous duplicate Work IQ source ID")
  | none => .ok { gathered with
      citationSources := (sourceId, url) :: gathered.citationSources
      sourceIds := gathered.sourceIds ++ [sourceId] }

def addCitation (gathered : Gathered) (fact : Json) : Except WorkIqFailure Gathered :=
  match citation? fact with
  | none => .ok gathered
  | some citation => do
    let sourceId ← boundedOptional (citation.get "sourceId") "citation source ID"
    match sourceId, (citation.get "url").text? with
    | some sourceId, some url => gathered.addSource sourceId url
    | _, _ => pure gathered

end Gathered

variable (services : NormalizerServices) (request : NormalizerRequest) (tenantHost : String)

def addFact (artifactId : String) (partIndex : ℕ) (gathered : Gathered) (fact : Json × ℕ) :
    Except WorkIqFailure Gathered := do
  expect (fact.1.isDict = true) (.protocol "Work IQ fact is malformed")
  let gathered ← gathered.addFactId fact.1
  let gathered ← gathered.addCitation fact.1
  let item ← factItem services request tenantHost artifactId partIndex fact.2 fact.1
  gathered.add item

def addText (artifactId : String) (partIndex : ℕ) (gathered : Gathered) (text : Json) :
    Except WorkIqFailure Gathered :=
  if text.isNull then .ok gathered
  else do
    let boundedText ← boundedString text "artifact text"
    gathered.add (contextualTextItem request artifactId partIndex boundedText)

def addData (artifactId : String) (partIndex : ℕ) (gathered : Gathered) (data : Json) :
    Except WorkIqFailure Gathered :=
  if data.isNull then .ok gathered
  else do
    expect (data.isDict = true) (.protocol "Work IQ artifact data is malformed")
    match (data.get "facts").list? with
    | none => .error (.protocol "Work IQ facts are malformed")
    | some facts =>
      expect (gathered.items.length + facts.length ≤ maxFacts)
        (.responseLimit "Work IQ fact count exceeds limit")
      facts.zipIdx.foldlM (addFact services request tenantHost artifactId partIndex) gathered

def addPart (artifactId : String) (gathered : Gathered) (part : Json × ℕ) :
    Except WorkIqFailure Gathered := do
  expect (part.1.isDict = true) (.protocol "Work IQ artifact part is malformed")
  let gathered ← addText request artifactId part.2 gathered (part.1.get "text")
  addData services request tenantHost artifactId part.2 gathered (part.1.get "data")

def addArtifact (gathered : Gathered) (artifact : Json) : Except WorkIqFailure Gathered := do
  expect (artifact.isDict = true) (.protocol "Work IQ artifact is malformed")
  let artifactId ← boundedString (artifact.get "artifactId") "artifact ID"
  expect (artifactId ∉ gathered.artifactIds) (.protocol "duplicate Work IQ artifact ID")
  let gathered := { gathered with artifactIds := gathered.artifactIds ++ [artifactId] }
  match (artifact.get "parts").list? with
  | none => .error (.responseLimit "Work IQ artifact part count is invalid")
  | some parts =>
    expect (parts.length ≤ 32) (.responseLimit "Work IQ artifact part count is invalid")
    parts.zipIdx.foldlM (addPart services request tenantHost artifactId) gathered

/-- `normalize_a2a_evidence`; an exception is logged and raised again. -/
def normalizeA2aEvidence (payload : Json) : Except WorkIqFailure WorkIqRetrieval := do
  let result := payload.get "result"
  expect (result.isDict = true) (.protocol "Work IQ result is missing")
  let task := result.get "task"
  expect (task.isDict = true) (.protocol "Work IQ task is missing")
  let status := task.get "status"
  expect (status.isDict = true ∧ (status.get "state").text? = some "TASK_STATE_COMPLETED")
    (.protocol "Work IQ task did not complete")
  let contextId ← boundedString (task.get "contextId") "context ID"
  let taskId ← boundedString (task.get "id") "task ID"
  let _ ← boundedString (.text request.expectedSourceId) "expected source ID"
  let tenantHost := normalizedHost services request.tenantSharepointHost
  expect (".sharepoint.com".toList <:+ tenantHost.toList ∧ tenantHost ≠ "sharepoint.com" ∧
    '/' ∉ tenantHost.toList ∧ ':' ∉ tenantHost.toList)
    (.valueError "tenant SharePoint host is invalid")
  match (task.get "artifacts").list? with
  | none => .error (.responseLimit "Work IQ artifact count is invalid")
  | some artifacts =>
    expect (artifacts.length ≤ 64) (.responseLimit "Work IQ artifact count is invalid")
    let gathered ← artifacts.foldlM (addArtifact services request tenantHost) .empty
    pure ⟨gathered.items, ⟨contextId, taskId, gathered.artifactIds, gathered.sourceIds⟩⟩

end SupplyResponse
