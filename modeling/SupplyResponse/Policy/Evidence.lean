/-
The evidence policy (`services/policy/evidence.py`).

* `sourceAuthority`, `kindAuthority`, `sourceRuntimeModes` — the scopes that an
  item may speak for, by source system and kind;
* `validatedScope`, `itemValidation` — what an item counts for in an analysis;
* `ActorIsAuthorized`, `validatedConflictScope`, `checkResolution` — who may
  resolve which conflict;
* `validateRequiredEvidence` — the two passes over the items, without and with
  the conflicts that are still open;
* `resolveConflict` — the resolution that an actor offers.
-/
import SupplyResponse.Analysis.Exposure
import SupplyResponse.Domain.Evidence
import SupplyResponse.Text.Url

namespace SupplyResponse

/-! ### The tables -/

/-- The members of `EvidenceBlockingCode`, in their order. -/
def EvidenceBlockingCode.all : List EvidenceBlockingCode :=
  [.requiredEvidenceMissing, .requiredEvidenceNotAuthoritative, .requiredCitationMissing,
    .requiredSourceMetadataMissing, .evidenceTimestampStale, .evidenceRetrievalOutsideWindow,
    .retrievalHealthUnacceptable, .evidenceNotYetEffective, .evidenceExpired,
    .evidenceConflictUnresolved, .conflictResolutionInvalid, .authorityScopeMismatch,
    .provenanceMismatch]

/-- `EVIDENCE_POLICY_VERSION`. -/
def evidencePolicyVersion : String := "evidence-policy-v3"

/-- `EVIDENCE_RETRIEVAL_WINDOW`: five minutes. -/
def evidenceRetrievalWindow : Instant := 5 * 60 * 1000000

/-- `_OPERATIONAL_SCOPES`. -/
def operationalScopes : List AuthorityScope :=
  [.operationalQuantity, .operationalDate, .qualificationState]

/-- `_SOURCE_AUTHORITY`. -/
def sourceAuthority : EvidenceSourceSystem → List AuthorityScope
  | .fabric => operationalScopes
  | .sqlite => operationalScopes
  | .workIq => statementScopes
  | .server => [.prerequisiteApproval]
  | .syntheticFixture => operationalScopes ++ statementScopes

/-- `_SOURCE_RUNTIME_MODES`. -/
def sourceRuntimeModes : EvidenceSourceSystem → List RuntimeMode
  | .fabric => [.live]
  | .sqlite => [.fallback]
  | .workIq => [.live]
  | .server => [.live, .fallback]
  | .syntheticFixture => [.fallback]

/-- `_KIND_AUTHORITY`. -/
def kindAuthority : EvidenceKind → List AuthorityScope
  | .operationalFact => operationalScopes
  | .sourceStatement => statementScopes
  | .prerequisiteApproval => [.prerequisiteApproval]
  | .contextualEvidence => statementScopes

/-- `_PERSONA_ROLES`. -/
def personaRoles (personaId : String) : Option (List String) :=
  if personaId = "RL-PERSONA-ALEX" then some ["material_planner", "response_approver"]
  else if personaId = "RL-PERSONA-JORDAN" then some ["quality_approver"]
  else if personaId = "RL-PERSONA-TAYLOR" then some ["finance_approver"]
  else none

/-- `_PERSONA_SOURCE_IDS`. -/
def personaSourceIds (personaId : String) : Option String :=
  if personaId = "RL-PERSONA-ALEX" then some "RL-ENTRA-ALEX"
  else if personaId = "RL-PERSONA-JORDAN" then some "RL-ENTRA-JORDAN"
  else if personaId = "RL-PERSONA-TAYLOR" then some "RL-ENTRA-TAYLOR"
  else none

/-- `_SCOPE_RESOLVER_ROLES`. -/
def scopeResolverRoles : AuthorityScope → List String
  | .operationalQuantity => ["material_planner", "response_approver"]
  | .operationalDate => ["material_planner", "response_approver"]
  | .qualificationState => ["quality_approver"]
  | .supplierStatement => ["material_planner", "response_approver"]
  | .collaborationStatement => ["material_planner", "quality_approver", "response_approver"]
  | .prerequisiteApproval =>
    ["material_planner", "finance_approver", "quality_approver", "response_approver"]

/-! ### Actors -/

/-- `_actor_is_authorized`. -/
def ActorIsAuthorized (authorityScope : List AuthorityScope) (actor : ActorProvenance) : Prop :=
  actor.identitySource = .entra ∧ Nonblank actor.sourceId ∧ actor.roles ≠ [] ∧
    "agent" ∉ actor.roles ∧
    (∃ recognized ∈ personaRoles actor.personaId, ∀ role ∈ actor.roles, role ∈ recognized) ∧
    personaSourceIds actor.personaId = some actor.sourceId ∧
    authorityScope ≠ [] ∧
    ∃ role ∈ actor.roles, ∀ scope ∈ authorityScope, role ∈ scopeResolverRoles scope

instance (authorityScope : List AuthorityScope) (actor : ActorProvenance) :
    Decidable (ActorIsAuthorized authorityScope actor) :=
  inferInstanceAs (Decidable (_ ∧ _))

/-! ### Items -/

/-- The arguments that all items of an analysis are validated with. -/
structure ValidationContext where
  analysisId : String
  runtimeMode : RuntimeMode
  scenarioEffectiveTime : Instant
  analysisStartedAt : Instant
  analysisRecordedAt : Instant
  deriving DecidableEq

/-- The scopes that the item may speak for in the mode. -/
def permittedScopes (item : EvidenceItem) (runtimeMode : RuntimeMode) : List AuthorityScope :=
  if item.runtimeMode ≠ runtimeMode ∨ runtimeMode ∉ sourceRuntimeModes item.sourceSystem then []
  else (sourceAuthority item.sourceSystem).filter fun scope => scope ∈ kindAuthority item.kind

/-- `_validated_scope`. -/
def validatedScope (item : EvidenceItem) (runtimeMode : RuntimeMode) : List AuthorityScope :=
  sortedSet AuthorityScope.value
    (item.authorityScope.filter fun scope => scope ∈ permittedScopes item runtimeMode)

/-- `scope_valid`. -/
def scopeValid (item : EvidenceItem) (runtimeMode : RuntimeMode) : Bool :=
  item.kind ≠ .contextualEvidence ∧ item.authorityScope ≠ [] ∧
    ∀ scope ∈ item.authorityScope, scope ∈ validatedScope item runtimeMode

/-- `required`. -/
def EvidenceItem.isRequired (item : EvidenceItem) : Bool :=
  item.requirement = .requiredAuthoritative

/-- `required_live_work_iq`. -/
def requiredLiveWorkIq (item : EvidenceItem) (runtimeMode : RuntimeMode) : Bool :=
  item.isRequired ∧ runtimeMode = .live ∧ item.sourceSystem = .workIq

/-- `timestamps_ordered`. -/
def timestampsOrdered (item : EvidenceItem) : Bool :=
  ∃ source ∈ item.sourceTimestamp, ∃ retrieved ∈ item.retrievedAt, source ≤ retrieved

/-- `current_retrieval`. -/
def currentRetrieval (context : ValidationContext) (item : EvidenceItem) : Bool :=
  item.retrievedForAnalysisId = context.analysisId ∧ item.retrievalHealth = .healthy

/-- `retrieval_in_window`. -/
def retrievalInWindow (context : ValidationContext) (item : EvidenceItem) : Bool :=
  ∃ retrieved ∈ item.retrievedAt, context.analysisStartedAt ≤ retrieved ∧
    retrieved ≤ context.analysisStartedAt + evidenceRetrievalWindow ∧
    retrieved ≤ context.analysisRecordedAt

/-- `freshness`. -/
def freshness (context : ValidationContext) (item : EvidenceItem) : FreshnessState :=
  if timestampsOrdered item ∧ currentRetrieval context item ∧ retrievalInWindow context item
  then .current else .stale

/-- `business_validity`. -/
def businessValidity (context : ValidationContext) (item : EvidenceItem) : BusinessValidityState :=
  if ∃ effective ∈ item.effectiveAt, context.scenarioEffectiveTime < effective then .notYetEffective
  else if ∃ expires ∈ item.expiresAt, expires ≤ context.scenarioEffectiveTime then .expired
  else .valid

/-- The code, under a condition. -/
def codeIf (condition : Bool) (code : EvidenceBlockingCode) : List EvidenceBlockingCode :=
  if condition then [code] else []

/-- `codes`; `cited` is what `_navigable_http_url` says of the citation. -/
def itemCodes (context : ValidationContext) (item : EvidenceItem) (cited : Bool) :
    List EvidenceBlockingCode :=
  codeIf (!scopeValid item context.runtimeMode) .authorityScopeMismatch ++
    codeIf (requiredLiveWorkIq item context.runtimeMode && !cited) .requiredCitationMissing ++
    codeIf (requiredLiveWorkIq item context.runtimeMode &&
      (!decide (Nonblank item.sourceId) || !decide (∃ excerpt ∈ item.excerpt, Nonblank excerpt)))
      .requiredSourceMetadataMissing ++
    codeIf (item.isRequired && !timestampsOrdered item) .evidenceTimestampStale ++
    codeIf (item.isRequired && !currentRetrieval context item) .retrievalHealthUnacceptable ++
    codeIf (item.isRequired && !retrievalInWindow context item) .evidenceRetrievalOutsideWindow ++
    codeIf (item.isRequired && decide (businessValidity context item = .notYetEffective))
      .evidenceNotYetEffective ++
    codeIf (item.isRequired && decide (businessValidity context item = .expired)) .evidenceExpired

/-- `uncertainty_state`, where the conflicted ids are given. -/
def uncertaintyOf (item : EvidenceItem) (conflictedIds : List String) : UncertaintyState :=
  if item.evidenceId ∈ conflictedIds then .conflicted else item.uncertaintyState

/-- What `_item_validation` returns. -/
def itemResult (context : ValidationContext) (conflictedIds : List String) (item : EvidenceItem)
    (cited : Bool) : EvidenceItemValidation where
  evidenceId := item.evidenceId
  requirement := item.requirement
  validatedAuthorityScope := validatedScope item context.runtimeMode
  freshness := freshness context item
  businessValidity := businessValidity context item
  uncertaintyState := uncertaintyOf item conflictedIds
  retrievalHealth := item.retrievalHealth
  authoritative :=
    item.isRequired ∧ scopeValid item context.runtimeMode ∧ freshness context item = .current ∧
      businessValidity context item = .valid ∧
      uncertaintyOf item conflictedIds ≠ .conflicted ∧ itemCodes context item cited = []
  blockingCodes := (itemCodes context item cited).eraseDups

section

variable (unicode : Text.Unicode) (isIpv6 : String → Bool)

/-- `_navigable_http_url`; a text that cannot be split raises. -/
def navigableHttpUrl (value : Option String) : Except AnalysisError Bool :=
  match value.filter fun text => Nonblank text with
  | none => .ok false
  | some text =>
    match Text.urlsplitText unicode isIpv6 text.toList with
    | none => .error (.valueError "Invalid URL")
    | some parsed =>
      .ok (parsed.scheme ∈ ["http".toList, "https".toList] ∧ parsed.netloc ≠ [])

/-- The citation is only looked at for required items of Work IQ in the live mode. -/
def citedItem (context : ValidationContext) (item : EvidenceItem) : Except AnalysisError Bool :=
  if requiredLiveWorkIq item context.runtimeMode then
    navigableHttpUrl unicode isIpv6 item.citationUrl
  else .ok false

/-- `_item_validation`. -/
def itemValidation (context : ValidationContext) (conflictedIds : List String)
    (item : EvidenceItem) : Except AnalysisError EvidenceItemValidation := do
  let cited ← citedItem unicode isIpv6 context item
  pure (itemResult context conflictedIds item cited)

end

/-! ### Conflicts -/

/-- `{item.evidence_id: item for item in results}.get(id)`. -/
def validationFor (results : List EvidenceItemValidation) (evidenceId : String) :
    Option EvidenceItemValidation :=
  results.reverse.find? fun result => result.evidenceId = evidenceId

/-- Some evidence that the conflict names is missing, or does not speak for all
its scopes. -/
def ConflictMismatch (results : List EvidenceItemValidation) (conflict : EvidenceConflict) : Prop :=
  conflict.evidenceIds = [] ∨ conflict.authorityScope = [] ∨
    ∃ id ∈ conflict.evidenceIds, validationFor results id = none ∨
      ∃ result ∈ validationFor results id,
        ∃ scope ∈ conflict.authorityScope, scope ∉ result.validatedAuthorityScope

instance (results : List EvidenceItemValidation) (conflict : EvidenceConflict) :
    Decidable (ConflictMismatch results conflict) :=
  inferInstanceAs (Decidable (_ ∨ _))

/-- `_validated_conflict_scope`. -/
def validatedConflictScope (results : List EvidenceItemValidation) (conflict : EvidenceConflict) :
    Except AnalysisError (List AuthorityScope) :=
  if ConflictMismatch results conflict then
    .error (.policyViolation
      "Conflict authority scope must match every referenced validated evidence scope.")
  else .ok (sortedSet AuthorityScope.value conflict.authorityScope)

/-- An entry of `validated_conflict_scopes`. -/
def conflictScopeEntry (results : List EvidenceItemValidation) (conflict : EvidenceConflict) :
    Except AnalysisError (String × List AuthorityScope) := do
  let scope ← validatedConflictScope results conflict
  pure (conflict.conflictId, scope)

/-- `validated_conflict_scopes[id]`. -/
def scopeOfConflict (scopes : List (String × List AuthorityScope)) (conflictId : String) :
    List AuthorityScope :=
  ((scopes.reverse.find? fun entry => entry.1 = conflictId).map Prod.snd).getD []

/-- The body of the loop over the resolutions. -/
def checkResolution (conflicts : List EvidenceConflict)
    (scopes : List (String × List AuthorityScope)) (resolution : ConflictResolution) :
    Except AnalysisError Unit :=
  match conflicts.find? fun conflict => conflict.conflictId = resolution.conflictId with
  | none =>
    .error (.policyViolation "Conflict resolution governing evidence must belong to its conflict.")
  | some conflict =>
    if resolution.governingEvidenceId ∉ conflict.evidenceIds then
      .error
        (.policyViolation "Conflict resolution governing evidence must belong to its conflict.")
    else if ¬ Nonblank resolution.why then
      .error (.policyViolation "Conflict resolution requires a nonblank rationale.")
    else if ¬ ActorIsAuthorized (scopeOfConflict scopes conflict.conflictId) resolution.actor then
      .error (.policyViolation "Conflict resolution requires an authorized human.")
    else .ok ()

/-- `_resolution_is_valid`. -/
def ResolutionIsValid (conflict : EvidenceConflict) (resolution : ConflictResolution)
    (validatedScope : List AuthorityScope) : Prop :=
  resolution.conflictId = conflict.conflictId ∧
    resolution.governingEvidenceId ∈ conflict.evidenceIds ∧ Nonblank resolution.why ∧
    ActorIsAuthorized validatedScope resolution.actor

instance (conflict : EvidenceConflict) (resolution : ConflictResolution)
    (validatedScope : List AuthorityScope) :
    Decidable (ResolutionIsValid conflict resolution validatedScope) :=
  inferInstanceAs (Decidable (_ ∧ _))

/-- `unresolved_conflicts`. -/
def unresolvedConflicts (conflicts : List EvidenceConflict) (resolutions : List ConflictResolution)
    (scopes : List (String × List AuthorityScope)) : List EvidenceConflict :=
  conflicts.filter fun conflict => conflict.feasibilityRelevant ∧
    ¬ ∃ resolution ∈ resolutions,
      ResolutionIsValid conflict resolution (scopeOfConflict scopes conflict.conflictId)

/-! ### The evidence of an analysis -/

/-- `authority_mismatch`. -/
def authorityMismatch (results : List EvidenceItemValidation)
    (requiredAuthorityScope : List AuthorityScope) : Bool :=
  ∃ scope ∈ requiredAuthorityScope,
    ¬ ∃ result ∈ results, result.authoritative ∧ scope ∈ result.validatedAuthorityScope

/-- The validation that `validate_required_evidence` puts together. -/
def evidenceValidationOf (results : List EvidenceItemValidation)
    (requiredAuthorityScope : List AuthorityScope) (unresolved : List EvidenceConflict) :
    EvidenceValidation where
  policyVersion := evidencePolicyVersion
  itemResults := results
  blockingCodes := EvidenceBlockingCode.all.filter fun code =>
    (∃ result ∈ results, result.requirement = .requiredAuthoritative ∧
        code ∈ result.blockingCodes) ∨
      (unresolved ≠ [] ∧ code = .evidenceConflictUnresolved) ∨
      (authorityMismatch results requiredAuthorityScope ∧ code = .authorityScopeMismatch)
  globalBlockingCodes := codeIf (authorityMismatch results requiredAuthorityScope)
    .authorityScopeMismatch

/-- `sorted(evidence_items, key=lambda item: item.evidence_id)`. -/
def sortedEvidence (items : List EvidenceItem) : List EvidenceItem :=
  items.insertionSort fun a b => a.evidenceId ≤ b.evidenceId

/-- Go on if `c` holds, else raise a `PolicyViolation`. -/
def requirePolicy (c : Prop) [Decidable c] (message : String) : Except AnalysisError Unit :=
  if c then .ok () else .error (.policyViolation message)

/-- `validate_required_evidence`. -/
def validateRequiredEvidence (unicode : Text.Unicode) (isIpv6 : String → Bool)
    (context : ValidationContext) (evidenceItems : List EvidenceItem)
    (requiredAuthorityScope : List AuthorityScope) (conflicts : List EvidenceConflict)
    (conflictResolutions : List ConflictResolution) : Except AnalysisError EvidenceValidation := do
  requirePolicy (context.analysisStartedAt ≤ context.analysisRecordedAt)
    "Analysis recording time cannot precede its start."
  requirePolicy (∀ item ∈ evidenceItems, ∀ retrieved ∈ item.retrievedAt,
      retrieved ≤ context.analysisRecordedAt)
    "Evidence retrieval cannot follow Analysis recording time."
  let base ← (sortedEvidence evidenceItems).mapM (itemValidation unicode isIpv6 context [])
  let scopes ← conflicts.mapM (conflictScopeEntry base)
  conflictResolutions.forM (checkResolution conflicts scopes)
  let unresolved := unresolvedConflicts conflicts conflictResolutions scopes
  let results ← (sortedEvidence evidenceItems).mapM
    (itemValidation unicode isIpv6 context (unresolved.flatMap EvidenceConflict.evidenceIds))
  pure (evidenceValidationOf results requiredAuthorityScope unresolved)

/-- `resolve_conflict`. -/
def resolveConflict (conflict : EvidenceConflict) (evidenceValidation : EvidenceValidation)
    (actor : ActorProvenance) (governingEvidenceId why : String) :
    Except AnalysisError ConflictResolution := do
  requirePolicy (evidenceValidation.policyVersion = evidencePolicyVersion)
    "Evidence validation policy version does not match the evaluator."
  let scope ← validatedConflictScope evidenceValidation.itemResults conflict
  requirePolicy (ActorIsAuthorized scope actor) "Conflict resolution requires an authorized human."
  requirePolicy (governingEvidenceId ∈ conflict.evidenceIds)
    "Governing evidence must belong to the conflict."
  if h : Nonblank why then pure ⟨conflict.conflictId, governingEvidenceId, actor, why, h⟩
  else throw (.valueError "why must be nonblank")

end SupplyResponse
