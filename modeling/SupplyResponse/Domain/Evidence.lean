/-
Evidence items, their validation, and the conflicts between them.
-/
import SupplyResponse.Domain.Cases

namespace SupplyResponse

inductive EvidenceKind
  | operationalFact
  | sourceStatement
  | prerequisiteApproval
  | contextualEvidence
  deriving DecidableEq, Repr

inductive EvidenceSourceSystem
  | fabric
  | sqlite
  | workIq
  | server
  | syntheticFixture
  deriving DecidableEq, Repr

inductive AuthorityScope
  | operationalQuantity
  | operationalDate
  | qualificationState
  | supplierStatement
  | collaborationStatement
  | prerequisiteApproval
  deriving DecidableEq, Repr

def AuthorityScope.value : AuthorityScope → String
  | operationalQuantity => "operational_quantity"
  | operationalDate => "operational_date"
  | qualificationState => "qualification_state"
  | supplierStatement => "supplier_statement"
  | collaborationStatement => "collaboration_statement"
  | prerequisiteApproval => "prerequisite_approval"

/-- The scopes of statements, of suppliers and of collaborators. -/
def statementScopes : List AuthorityScope := [.supplierStatement, .collaborationStatement]

inductive EvidenceRequirement
  | requiredAuthoritative
  | contextual
  deriving DecidableEq, Repr

inductive FreshnessState
  | current
  | stale
  deriving DecidableEq, Repr

inductive BusinessValidityState
  | valid
  | notYetEffective
  | expired
  deriving DecidableEq, Repr

inductive UncertaintyState
  | certain
  | uncertain
  | conflicted
  deriving DecidableEq, Repr

inductive RetrievalHealth
  | healthy
  | unhealthy
  deriving DecidableEq, Repr

inductive EvidenceBlockingCode
  | requiredEvidenceMissing
  | requiredEvidenceNotAuthoritative
  | requiredCitationMissing
  | requiredSourceMetadataMissing
  | evidenceTimestampStale
  | evidenceRetrievalOutsideWindow
  | retrievalHealthUnacceptable
  | evidenceNotYetEffective
  | evidenceExpired
  | evidenceConflictUnresolved
  | conflictResolutionInvalid
  | authorityScopeMismatch
  | provenanceMismatch
  deriving DecidableEq, Repr

def EvidenceBlockingCode.value : EvidenceBlockingCode → String
  | requiredEvidenceMissing => "REQUIRED_EVIDENCE_MISSING"
  | requiredEvidenceNotAuthoritative => "REQUIRED_EVIDENCE_NOT_AUTHORITATIVE"
  | requiredCitationMissing => "REQUIRED_CITATION_MISSING"
  | requiredSourceMetadataMissing => "REQUIRED_SOURCE_METADATA_MISSING"
  | evidenceTimestampStale => "EVIDENCE_TIMESTAMP_STALE"
  | evidenceRetrievalOutsideWindow => "EVIDENCE_RETRIEVAL_OUTSIDE_WINDOW"
  | retrievalHealthUnacceptable => "RETRIEVAL_HEALTH_UNACCEPTABLE"
  | evidenceNotYetEffective => "EVIDENCE_NOT_YET_EFFECTIVE"
  | evidenceExpired => "EVIDENCE_EXPIRED"
  | evidenceConflictUnresolved => "EVIDENCE_CONFLICT_UNRESOLVED"
  | conflictResolutionInvalid => "CONFLICT_RESOLUTION_INVALID"
  | authorityScopeMismatch => "AUTHORITY_SCOPE_MISMATCH"
  | provenanceMismatch => "PROVENANCE_MISMATCH"

inductive CitationClassification
  | fabric
  | workIq
  | untrusted
  deriving DecidableEq, Repr

structure EvidenceItem where
  evidenceId : String
  caseId : String
  kind : EvidenceKind
  authorityScope : List AuthorityScope
  sourceSystem : EvidenceSourceSystem
  sourceId : String
  sourceTimestamp : Option Instant
  retrievedAt : Option Instant
  retrievedForAnalysisId : String
  retrievalHealth : RetrievalHealth
  effectiveAt : Option Instant
  expiresAt : Option Instant
  claim : String
  excerpt : Option String
  citationUrl : Option String
  runtimeMode : RuntimeMode
  synthetic : Bool
  requirement : EvidenceRequirement
  uncertaintyState : UncertaintyState
  citationClassification : Option CitationClassification
  navigableCitationUrl : Option String
  citationTrustedHost : Option String
  deriving DecidableEq

structure ActorProvenance where
  personaId : String
  roles : List String
  identitySource : IdentitySource
  sourceId : String
  deriving DecidableEq

structure EvidenceConflict where
  conflictId : String
  caseId : String
  evidenceIds : List String
  authorityScope : List AuthorityScope
  description : String
  feasibilityRelevant : Bool
  deriving DecidableEq

structure ConflictResolution where
  conflictId : String
  governingEvidenceId : String
  actor : ActorProvenance
  why : String
  nonblank : Nonblank why

/-- Two resolutions are equal when their fields are. -/
instance : DecidableEq ConflictResolution := fun a b =>
  decidable_of_iff (a.conflictId = b.conflictId ∧
    a.governingEvidenceId = b.governingEvidenceId ∧ a.actor = b.actor ∧ a.why = b.why) (by
      cases a
      cases b
      simp)

structure EvidenceItemValidation where
  evidenceId : String
  requirement : EvidenceRequirement
  validatedAuthorityScope : List AuthorityScope
  freshness : FreshnessState
  businessValidity : BusinessValidityState
  uncertaintyState : UncertaintyState
  retrievalHealth : RetrievalHealth
  authoritative : Bool
  blockingCodes : List EvidenceBlockingCode
  deriving DecidableEq

structure EvidenceValidation where
  policyVersion : String
  itemResults : List EvidenceItemValidation
  blockingCodes : List EvidenceBlockingCode
  globalBlockingCodes : List EvidenceBlockingCode
  deriving DecidableEq

end SupplyResponse
