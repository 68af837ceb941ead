/-
Which options of an analysis are executable.

* `AnalyzedFrom` — an accepted command, the options that its snapshot has, and
  what comes out;
* `Supports` — the evidence that a requirement asks for;
* `MayExecute` — what executability takes, of the option as it was evaluated;
* `analyzeCase_executable` — the two passes over the options block exactly the
  rest, and the ranking is over what remains.
-/
import SupplyResponse.Analysis.Outcomes
import SupplyResponse.Analysis.RankingPolicy
import SupplyResponse.Analysis.Rl001
import SupplyResponse.Analysis.Service
import SupplyResponse.Policy.Acceptance
import SupplyResponse.Runs.Transactions

namespace SupplyResponse

/-! ### Accepted commands -/

/-- What the checks at the head establish. -/
structure CommandChecked (command : AnalyzeCaseCommand) (bases : List ResponseOption) : Prop where
  evidenceIds : (command.evidenceItems.map EvidenceItem.evidenceId).Nodup
  optionIds : DistinctIds bases
  conflictIds : (command.conflicts.map EvidenceConflict.conflictId).Nodup
  resolutionIds : (command.conflictResolutions.map ConflictResolution.conflictId).Nodup
  authorizationIds :
    (command.standingAuthorizations.map StandingAuthorization.authorizationId).Nodup
  modes : ∀ item ∈ command.evidenceItems, item.runtimeMode = command.case.runtimeMode

theorem rejectDuplicateIds_eq_ok {ids : List String} {label : String} {u : Unit} :
    rejectDuplicateIds ids label = .ok u ↔ ids.Nodup := by
  unfold rejectDuplicateIds
  split
  · simp [*]
  · simp [*]

theorem checkCommand_spec {command : AnalyzeCaseCommand} {bases : List ResponseOption} {u : Unit}
    (h : checkCommand command bases = .ok u) : CommandChecked command bases := by
  obtain ⟨_, -, h⟩ := bind_eq_ok.mp h
  obtain ⟨_, -, h⟩ := bind_eq_ok.mp h
  obtain ⟨_, -, h⟩ := bind_eq_ok.mp h
  obtain ⟨_, hevidence, h⟩ := bind_eq_ok.mp h
  obtain ⟨_, hoptions, h⟩ := bind_eq_ok.mp h
  obtain ⟨_, hconflicts, h⟩ := bind_eq_ok.mp h
  obtain ⟨_, hresolutions, h⟩ := bind_eq_ok.mp h
  obtain ⟨_, hauthorizations, h⟩ := bind_eq_ok.mp h
  obtain ⟨_, -, h⟩ := bind_eq_ok.mp h
  obtain ⟨_, hmodes, -⟩ := bind_eq_ok.mp h
  exact ⟨rejectDuplicateIds_eq_ok.mp hevidence, rejectDuplicateIds_eq_ok.mp hoptions,
    rejectDuplicateIds_eq_ok.mp hconflicts, rejectDuplicateIds_eq_ok.mp hresolutions,
    rejectDuplicateIds_eq_ok.mp hauthorizations,
    fun item hitem => (requirePolicy_eq_ok.mp hmodes item hitem).2⟩

/-- The options of an analysis after both passes. -/
def finalOptions (command : AnalyzeCaseCommand) (validation : EvidenceValidation)
    (bases : List ResponseOption) : List ResponseOption :=
  let adjusted := applyEvidenceFeasibility (canonicalOptions bases) validation
  applyQualityApprovalFeasibility adjusted (satisfactionsOf command adjusted)

section

variable (env : Env) (unicode : Text.Unicode) (isIpv6 : String → Bool)

/-- An accepted command, the options that were evaluated and the analysis. -/
structure AnalyzedFrom (command : AnalyzeCaseCommand) (bases : List ResponseOption)
    (analysis : AnalysisVersion) : Prop where
  evaluated : evaluateResponseOptions command.operationalSnapshot = .ok bases
  checked : CommandChecked command bases
  evidence : EvidenceAccepted unicode isIpv6 command.context (sortedEvidence command.evidenceItems)
    command.canonicalRequiredScope command.canonicalConflicts command.canonicalResolutions
    analysis.evidenceValidation
  options : analysis.responseOptions = finalOptions command analysis.evidenceValidation bases
  ranked : rankOptions analysis.responseOptions = .ok analysis.ranking
  snapshot : canonicalOperationalSnapshot command.operationalSnapshot =
    .ok analysis.material.operationalSnapshotJson
  material : analysis.material = analysisMaterial command analysis.material.operationalSnapshotJson
    analysis.evidenceValidation analysis.responseOptions analysis.approvalSatisfactions
    analysis.ranking
  satisfactions : analysis.approvalSatisfactions = satisfactionsOf command
    (applyEvidenceFeasibility (canonicalOptions bases) analysis.evidenceValidation)
  hash : analysis.materialHash = env.analysisMaterialHash analysis.material

variable {env unicode isIpv6}

theorem sortedEvidence_sortedEvidence (items : List EvidenceItem) :
    sortedEvidence (sortedEvidence items) = sortedEvidence items := by
  have htotal : Std.Total fun a b : EvidenceItem => a.evidenceId ≤ b.evidenceId :=
    ⟨fun a b => le_total a.evidenceId b.evidenceId⟩
  have htrans : IsTrans EvidenceItem fun a b => a.evidenceId ≤ b.evidenceId :=
    ⟨fun _ _ _ hab hbc => hab.trans hbc⟩
  exact List.Pairwise.insertionSort_eq (List.pairwise_insertionSort _ _)

theorem valueErrorOf_eq_ok {α : Type} {result : Except String α} {a : α} :
    valueErrorOf result = .ok a ↔ result = .ok a := by
  cases result <;> simp [valueErrorOf, Except.mapError]

theorem analyzeCase_spec {command : AnalyzeCaseCommand} {analysis : AnalysisVersion}
    (h : analyzeCase env unicode isIpv6 command = .ok analysis) :
    ∃ bases, AnalyzedFrom env unicode isIpv6 command bases analysis := by
  obtain ⟨bases, hbases, h⟩ := bind_eq_ok.mp h
  obtain ⟨_, hchecked, h⟩ := bind_eq_ok.mp h
  obtain ⟨validation, hvalidation, h⟩ := bind_eq_ok.mp h
  obtain ⟨ranking, hranking, h⟩ := bind_eq_ok.mp h
  obtain ⟨snapshot, hsnapshot, h⟩ := bind_eq_ok.mp h
  have hchecked := checkCommand_spec hchecked
  have hconflicts : (command.canonicalConflicts.map EvidenceConflict.conflictId).Nodup :=
    ((List.perm_insertionSort _ _).map _).nodup_iff.mpr hchecked.conflictIds
  have hevidence := validateRequiredEvidence_spec (sortedEvidence_ids hchecked.evidenceIds)
    hconflicts hvalidation
  rw [sortedEvidence_sortedEvidence] at hevidence
  obtain rfl := Except.ok.inj h
  exact ⟨bases, hbases, hchecked, hevidence, rfl, hranking, valueErrorOf_eq_ok.mp hsnapshot, rfl,
    rfl, rfl⟩

end

/-! ### What a requirement asks for -/

/-- The evidence that a requirement asks for. -/
structure Supports (command : AnalyzeCaseCommand) (requirement : ResponseOptionEvidenceRequirement)
    (item : EvidenceItem) : Prop where
  named : item.evidenceId = requirement.evidenceId
  required : item.requirement = .requiredAuthoritative
  source : command.case.runtimeMode ∈ sourceRuntimeModes item.sourceSystem
  permitted : ∀ scope ∈ item.authorityScope,
    scope ∈ sourceAuthority item.sourceSystem ∧ scope ∈ kindAuthority item.kind
  retrieval : item.retrievedForAnalysisId = command.analysisId ∧ item.retrievalHealth = .healthy
  window : ∃ retrieved ∈ item.retrievedAt, command.analysisStartedAt ≤ retrieved ∧
    retrieved ≤ command.analysisStartedAt + evidenceRetrievalWindow
  ordered : ∃ source ∈ item.sourceTimestamp, ∃ retrieved ∈ item.retrievedAt, source ≤ retrieved
  effective : ∀ effective ∈ item.effectiveAt, effective ≤ command.case.scenarioEffectiveTime
  unexpired : ∀ expires ∈ item.expiresAt, command.case.scenarioEffectiveTime < expires
  unconflicted : ∀ conflict ∈ command.conflicts, conflict.IsOpen command.conflictResolutions →
    item.evidenceId ∉ conflict.evidenceIds
  certain : item.uncertaintyState ≠ .conflicted
  scopes : ∀ scope ∈ requirement.authorityScope,
    scope ∈ validatedScope item command.case.runtimeMode

theorem mem_validatedScope {item : EvidenceItem} {runtimeMode : RuntimeMode}
    {scope : AuthorityScope} :
    scope ∈ validatedScope item runtimeMode ↔
      scope ∈ item.authorityScope ∧ item.runtimeMode = runtimeMode ∧
        runtimeMode ∈ sourceRuntimeModes item.sourceSystem ∧
        scope ∈ sourceAuthority item.sourceSystem ∧ scope ∈ kindAuthority item.kind := by
  simp only [validatedScope, mem_sortedSet, List.mem_filter, decide_eq_true_eq]
  refine and_congr_right fun _ => ?_
  unfold permittedScopes
  split
  · next h =>
    constructor
    · exact fun hmem => absurd hmem List.not_mem_nil
    · rintro ⟨hmode, hsource, -⟩
      rcases h with h | h
      · exact absurd hmode h
      · exact absurd hsource h
  · next h =>
    push Not at h
    rw [List.mem_filter, decide_eq_true_eq]
    exact ⟨fun hmem => ⟨h.1, h.2, hmem⟩, fun hmem => hmem.2.2⟩

theorem businessValidity_eq_valid {context : ValidationContext} {item : EvidenceItem} :
    businessValidity context item = .valid ↔
      (∀ effective ∈ item.effectiveAt, effective ≤ context.scenarioEffectiveTime) ∧
        ∀ expires ∈ item.expiresAt, context.scenarioEffectiveTime < expires := by
  unfold businessValidity
  split
  · next h =>
    refine ⟨fun hvalid => (nomatch hvalid), fun hvalid => ?_⟩
    obtain ⟨effective, hmem, hlt⟩ := h
    exact absurd (hvalid.1 effective hmem) (not_le.mpr hlt)
  · next h =>
    push Not at h
    split
    · next hexpired =>
      refine ⟨fun hvalid => (nomatch hvalid), fun hvalid => ?_⟩
      obtain ⟨expires, hmem, hle⟩ := hexpired
      exact absurd (hvalid.2 expires hmem) (not_lt.mpr hle)
    · next hexpired =>
      push Not at hexpired
      exact ⟨fun _ => ⟨h, hexpired⟩, fun _ => rfl⟩

/-- Nothing is held against a required item that speaks for an operational scope: the
sources of statements do not. -/
theorem itemCodes_eq_nil {context : ValidationContext} {item : EvidenceItem} {cited : Bool}
    (hrequired : item.isRequired = true) {scope : AuthorityScope}
    (hoperational : scope ∈ operationalScopes)
    (hscope : scope ∈ validatedScope item context.runtimeMode) :
    itemCodes context item cited = [] ↔
      (∀ s ∈ item.authorityScope, s ∈ validatedScope item context.runtimeMode) ∧
        timestampsOrdered item = true ∧ currentRetrieval context item = true ∧
        retrievalInWindow context item = true ∧ businessValidity context item = .valid := by
  obtain ⟨hmem, -, -, hsource, hkind⟩ := mem_validatedScope.mp hscope
  have hworkIq : requiredLiveWorkIq item context.runtimeMode = false := by
    rw [requiredLiveWorkIq, decide_eq_false_iff_not]
    rintro ⟨-, -, hsystem⟩
    rw [hsystem] at hsource
    revert hoperational hsource
    cases scope <;> decide
  have hcontextual : item.kind ≠ .contextualEvidence := by
    intro h
    rw [h] at hkind
    revert hoperational hkind
    cases scope <;> decide
  have hscopeValid : scopeValid item context.runtimeMode = true ↔
      ∀ s ∈ item.authorityScope, s ∈ validatedScope item context.runtimeMode := by
    rw [scopeValid, decide_eq_true_eq]
    exact ⟨fun h => h.2.2, fun h => ⟨hcontextual, List.ne_nil_of_mem hmem, h⟩⟩
  have hvalid : businessValidity context item = .valid ↔
      businessValidity context item ≠ .notYetEffective ∧
        businessValidity context item ≠ .expired := by
    cases businessValidity context item <;> simp
  simp only [itemCodes, List.append_eq_nil_iff, codeIf_eq_nil, hrequired, hworkIq, Bool.true_and,
    Bool.false_and, Bool.not_eq_false', decide_eq_false_iff_not, hscopeValid, and_assoc, true_and,
    hvalid, ne_eq]

theorem eraseDups_eq_nil {α : Type} [DecidableEq α] {l : List α} : l.eraseDups = [] ↔ l = [] := by
  simp only [List.eq_nil_iff_forall_not_mem, List.mem_eraseDups]

/-- An option is not blocked by a requirement whose item is authoritative, for its scopes. -/
theorem requirementCodes_eq_nil {unicode : Text.Unicode} {isIpv6 : String → Bool}
    {context : ValidationContext} {conflictedIds : List String} {items : List EvidenceItem}
    (hids : (items.map EvidenceItem.evidenceId).Nodup)
    {requirement : ResponseOptionEvidenceRequirement} :
    requirementCodes (resultsOf unicode isIpv6 context conflictedIds items) requirement = [] ↔
      ∃ item ∈ items, item.evidenceId = requirement.evidenceId ∧
        (itemResult context conflictedIds item
          (cites unicode isIpv6 context item)).authoritative = true ∧
        ∀ scope ∈ requirement.authorityScope, scope ∈ validatedScope item context.runtimeMode := by
  unfold requirementCodes
  split
  · next hnone =>
    refine ⟨fun h => (nomatch h), fun ⟨item, hitem, hid, _⟩ => ?_⟩
    exact absurd hid (validationFor_eq_none.mp hnone item hitem)
  · next result hsome =>
    obtain ⟨item, hitem, hid, rfl⟩ := (validationFor_eq_some hids).mp hsome
    simp only [List.append_eq_nil_iff, List.map_eq_nil_iff, ite_eq_right_iff,
      List.cons_ne_nil, imp_false, not_and, not_not, not_exists]
    constructor
    · rintro ⟨⟨⟨hcodes, hcertain⟩, hscopes⟩, hauthoritative⟩
      refine ⟨item, hitem, hid, ?_, hscopes⟩
      by_contra hfalse
      exact hcertain (hauthoritative (Bool.eq_false_iff.mpr hfalse) hcodes)
    · rintro ⟨item', hitem', hid', hauthoritative, hscopes⟩
      obtain rfl := List.inj_on_of_nodup_map hids hitem' hitem (hid'.trans hid.symm)
      obtain ⟨-, hcodes, hconflicted, hcertain⟩ := itemResult_authoritative.mp hauthoritative
      refine ⟨⟨⟨eraseDups_eq_nil.mpr hcodes, ?_⟩, hscopes⟩, fun hfalse => ?_⟩
      · simp only [itemResult, uncertaintyOf, if_neg hconflicted]
        exact hcertain
      · rw [hauthoritative] at hfalse
        cases hfalse

/-! ### Executable options -/

/-- Some required scope has no authoritative item. -/
def GloballyBlocked (command : AnalyzeCaseCommand) (analysis : AnalysisVersion) : Prop :=
  ∃ scope ∈ command.requiredAuthorityScope,
    ∀ result ∈ analysis.evidenceValidation.itemResults, result.authoritative = true →
      scope ∉ result.validatedAuthorityScope

/-- An authorization of Jordan permits the option. -/
def QualityApproved (command : AnalyzeCaseCommand) (option : ResponseOption) : Prop :=
  ∃ authorization ∈ command.standingAuthorizations, authorization.role = "quality_approver" ∧
    authorization.personaId = "RL-PERSONA-JORDAN" ∧
    authorization.Permits option (approvalTarget command.case command.corpus option)

/-- What it takes for an option, as it was evaluated, to be executable in the analysis. -/
structure MayExecute (command : AnalyzeCaseCommand) (analysis : AnalysisVersion)
    (base : ResponseOption) : Prop where
  executable : base.executable = true
  unblocked : base.blockingCodes = []
  covered : base.activeMitigation = true → ¬ GloballyBlocked command analysis
  supported : ∀ requirement ∈ base.evidenceRequirements,
    ∃ item ∈ command.evidenceItems, Supports command requirement item
  approved : "quality_approver" ∈ base.prerequisiteRoles → QualityApproved command base

/-- The requirements of the options ask for operational scopes. -/
theorem evidenceRequirements_operational {snapshot : OperationalSnapshot}
    {bases : List ResponseOption} (h : evaluateResponseOptions snapshot = .ok bases)
    {base : ResponseOption} (hbase : base ∈ bases) {requirement : ResponseOptionEvidenceRequirement}
    (hrequirement : requirement ∈ base.evidenceRequirements) :
    ∃ scope ∈ requirement.authorityScope, scope ∈ operationalScopes := by
  have hsupply : ∀ id, ∃ scope ∈ (supplyRequirement id).authorityScope,
      scope ∈ operationalScopes := fun id => ⟨.operationalQuantity, by simp [supplyRequirement],
    by decide⟩
  have halpha : requirement ∈ snapshot.alphaExpedite.toList.map
      (fun alpha => supplyRequirement alpha.receiptId) →
      ∃ scope ∈ requirement.authorityScope, scope ∈ operationalScopes := by
    intro hmem
    obtain ⟨alpha, -, rfl⟩ := List.mem_map.mp hmem
    exact hsupply _
  obtain ⟨outcomes, -, rfl⟩ := evaluateResponseOptions_eq_ok.mp h
  simp only [optionsOf, List.mem_cons, List.not_mem_nil, or_false] at hbase
  rcases hbase with rfl | rfl | rfl | rfl | rfl | rfl
  · cases hrequirement
  · exact halpha hrequirement
  · obtain rfl := List.mem_singleton.mp hrequirement
    exact hsupply _
  · cases hrequirement
  · obtain rfl := List.mem_singleton.mp hrequirement
    exact ⟨.qualificationState, List.mem_singleton.mpr rfl, by decide⟩
  · rcases List.mem_append.mp hrequirement with hmem | hmem
    · exact halpha hmem
    · obtain rfl := List.mem_singleton.mp hmem
      exact hsupply _

section

variable {env : Env} {unicode : Text.Unicode} {isIpv6 : String → Bool}
  {command : AnalyzeCaseCommand} {bases : List ResponseOption} {analysis : AnalysisVersion}

theorem isOpen_canonical {conflict : EvidenceConflict} :
    conflict.IsOpen command.canonicalResolutions ↔
      conflict.IsOpen command.conflictResolutions := by
  simp only [EvidenceConflict.IsOpen, AnalyzeCaseCommand.canonicalResolutions,
    List.mem_insertionSort]

theorem mem_canonicalConflicts {conflict : EvidenceConflict} :
    conflict ∈ command.canonicalConflicts ↔ conflict ∈ command.conflicts := by
  rw [AnalyzeCaseCommand.canonicalConflicts, List.mem_insertionSort]

/-- The ids of the items that open conflicts name. -/
theorem mem_openIds_canonical {id : String} :
    id ∈ openIds command.canonicalConflicts command.canonicalResolutions ↔
      ∃ conflict ∈ command.conflicts, conflict.IsOpen command.conflictResolutions ∧
        id ∈ conflict.evidenceIds := by
  simp only [mem_openIds, mem_canonicalConflicts, isOpen_canonical]

namespace AnalyzedFrom

theorem itemResults_eq (h : AnalyzedFrom env unicode isIpv6 command bases analysis) :
    analysis.evidenceValidation.itemResults =
      resultsOf unicode isIpv6 command.context
        (openIds command.canonicalConflicts command.canonicalResolutions)
        (sortedEvidence command.evidenceItems) := by
  rw [h.evidence.eq, evidenceValidationOf]

theorem globalBlockingCodes_eq_nil
    (h : AnalyzedFrom env unicode isIpv6 command bases analysis) :
    analysis.evidenceValidation.globalBlockingCodes = [] ↔ ¬ GloballyBlocked command analysis := by
  have hmismatch : analysis.evidenceValidation.globalBlockingCodes = [] ↔
      authorityMismatch analysis.evidenceValidation.itemResults
        command.canonicalRequiredScope = false := by
    rw [h.itemResults_eq, h.evidence.eq]
    exact codeIf_eq_nil
  rw [hmismatch, authorityMismatch, decide_eq_false_iff_not]
  refine not_congr ?_
  unfold GloballyBlocked
  simp only [AnalyzeCaseCommand.canonicalRequiredScope, mem_sortedSet, not_exists, not_and]

/-- A requirement blocks nothing exactly when it is supported. -/
theorem requirementCodes_eq_nil (h : AnalyzedFrom env unicode isIpv6 command bases analysis)
    {base : ResponseOption} (hbase : base ∈ bases)
    {requirement : ResponseOptionEvidenceRequirement}
    (hrequirement : requirement ∈ base.evidenceRequirements) :
    requirementCodes analysis.evidenceValidation.itemResults requirement = [] ↔
      ∃ item ∈ command.evidenceItems, Supports command requirement item := by
  obtain ⟨scope, hscope, hoperational⟩ :=
    evidenceRequirements_operational h.evaluated hbase hrequirement
  rw [h.itemResults_eq, SupplyResponse.requirementCodes_eq_nil
    (sortedEvidence_ids h.checked.evidenceIds)]
  simp only [mem_sortedEvidence]
  refine exists_congr fun item => and_congr_right fun hitem => ?_
  have hmode := h.checked.modes item hitem
  constructor
  · rintro ⟨hid, hauthoritative, hscopes⟩
    obtain ⟨hrequired, hcodes, hopen, hcertain⟩ := itemResult_authoritative.mp hauthoritative
    obtain ⟨hall, hordered, hcurrent, hwindow, hvalid⟩ :=
      (itemCodes_eq_nil hrequired hoperational (hscopes scope hscope)).mp hcodes
    obtain ⟨heffective, hexpires⟩ := businessValidity_eq_valid.mp hvalid
    have hmem := mem_validatedScope.mp (hscopes scope hscope)
    rw [retrievalInWindow, decide_eq_true_eq] at hwindow
    obtain ⟨retrieved, hretrieved, hstart, hend, -⟩ := hwindow
    exact
      { named := hid
        required := of_decide_eq_true hrequired
        source := hmem.2.2.1
        permitted := fun s hs => (mem_validatedScope.mp (hall s hs)).2.2.2
        retrieval := of_decide_eq_true hcurrent
        window := ⟨retrieved, hretrieved, hstart, hend⟩
        ordered := of_decide_eq_true hordered
        effective := heffective
        unexpired := hexpires
        unconflicted := fun conflict hconflict hopen' hnamed =>
          hopen (mem_openIds_canonical.mpr ⟨conflict, hconflict, hopen', hnamed⟩)
        certain := hcertain
        scopes := hscopes }
  · intro hsupports
    refine ⟨hsupports.named, ?_, hsupports.scopes⟩
    have hrequired : item.isRequired = true := decide_eq_true hsupports.required
    rw [itemResult_authoritative]
    refine ⟨hrequired, ?_, fun hmem => ?_, hsupports.certain⟩
    · rw [itemCodes_eq_nil hrequired hoperational (hsupports.scopes scope hscope)]
      refine ⟨fun s hs => mem_validatedScope.mpr
        ⟨hs, hmode, hsupports.source, hsupports.permitted s hs⟩, decide_eq_true hsupports.ordered,
        decide_eq_true hsupports.retrieval, ?_,
        businessValidity_eq_valid.mpr ⟨hsupports.effective, hsupports.unexpired⟩⟩
      -- that nothing is retrieved after the recording was checked before
      obtain ⟨retrieved, hretrieved, hstart, hend⟩ := hsupports.window
      exact decide_eq_true ⟨retrieved, hretrieved, hstart, hend,
        h.evidence.retrievedBefore item (mem_sortedEvidence.mpr hitem) retrieved hretrieved⟩
    · obtain ⟨conflict, hconflict, hopen, hnamed⟩ := mem_openIds_canonical.mp hmem
      exact hsupports.unconflicted conflict hconflict hopen hnamed

theorem evidenceCodes_eq_nil (h : AnalyzedFrom env unicode isIpv6 command bases analysis)
    {base : ResponseOption} (hbase : base ∈ bases) :
    evidenceCodes analysis.evidenceValidation base = [] ↔
      (base.activeMitigation = true → ¬ GloballyBlocked command analysis) ∧
        ∀ requirement ∈ base.evidenceRequirements,
          ∃ item ∈ command.evidenceItems, Supports command requirement item := by
  rw [evidenceCodes, List.append_eq_nil_iff, List.flatMap_eq_nil_iff]
  refine and_congr ?_ (forall₂_congr fun requirement hrequirement =>
    h.requirementCodes_eq_nil hbase hrequirement)
  rw [← h.globalBlockingCodes_eq_nil]
  split
  · next hactive => simp [hactive]
  · next hactive => simp [hactive]

end AnalyzedFrom

/-! ### Quality approval -/

@[simp] theorem withEvidenceCodes_optionId (validation : EvidenceValidation)
    (option : ResponseOption) : (withEvidenceCodes validation option).optionId = option.optionId :=
  rfl

@[simp] theorem withEvidenceCodes_prerequisiteRoles (validation : EvidenceValidation)
    (option : ResponseOption) :
    (withEvidenceCodes validation option).prerequisiteRoles = option.prerequisiteRoles := rfl

@[simp] theorem withEvidenceCodes_optionKind (validation : EvidenceValidation)
    (option : ResponseOption) :
    (withEvidenceCodes validation option).optionKind = option.optionKind := rfl

@[simp] theorem withEvidenceCodes_predicted (validation : EvidenceValidation)
    (option : ResponseOption) :
    (withEvidenceCodes validation option).predicted = option.predicted := rfl

theorem withEvidenceCodes_executable {validation : EvidenceValidation} {option : ResponseOption} :
    (withEvidenceCodes validation option).executable = true ↔
      option.executable = true ∧ option.blockingCodes = [] ∧
        evidenceCodes validation option = [] := by
  simp only [withEvidenceCodes, Bool.and_eq_true, List.isEmpty_iff, eraseDups_eq_nil,
    List.append_eq_nil_iff]

/-- What is permitted does not depend on the codes. -/
theorem permits_withEvidenceCodes {authorization : StandingAuthorization}
    {validation : EvidenceValidation} {option : ResponseOption} {target : ApprovalTarget} :
    authorization.Permits (withEvidenceCodes validation option) target ↔
      authorization.Permits option target := Iff.rfl

theorem approvalTarget_withEvidenceCodes (case : CaseInstance) (corpus : CorpusScope)
    (validation : EvidenceValidation) (option : ResponseOption) :
    approvalTarget case corpus (withEvidenceCodes validation option) =
      approvalTarget case corpus option := rfl

theorem mem_evaluateApprovalSatisfaction {option : ResponseOption} {analysisId : String}
    {authorizations : List StandingAuthorization} {target : ApprovalTarget}
    {satisfaction : ApprovalSatisfaction} :
    satisfaction ∈ evaluateApprovalSatisfaction option analysisId authorizations target ↔
      ∃ authorization ∈ authorizations, authorization.role ∈ option.prerequisiteRoles ∧
        authorization.role ≠ "response_approver" ∧
        (∀ persona ∈ approvalPersonas authorization.role, authorization.personaId = persona) ∧
        authorization.Permits option target ∧
        satisfaction =
          { analysisId := analysisId
            optionId := option.optionId
            authorizationId := authorization.authorizationId
            personaId := authorization.personaId
            role := authorization.role
            satisfied := true
            target := target
            authorizationConditions := authorization.conditions } := by
  simp only [evaluateApprovalSatisfaction, List.mem_flatMap, List.mem_filterMap, List.mem_filter,
    mem_sortedSet, decide_eq_true_eq]
  constructor
  · rintro ⟨role, ⟨hrole, hother⟩, authorization, ⟨hmem, rfl, hpersona, hpermits⟩, hbuilt⟩
    rw [ApprovalSatisfaction.fromAuthorization, if_pos hpermits] at hbuilt
    exact ⟨authorization, hmem, hrole, hother, hpersona, hpermits, (Option.some.inj hbuilt).symm⟩
  · rintro ⟨authorization, hmem, hrole, hother, hpersona, hpermits, rfl⟩
    refine ⟨authorization.role, ⟨hrole, hother⟩, authorization, ⟨hmem, rfl, hpersona, hpermits⟩, ?_⟩
    rw [ApprovalSatisfaction.fromAuthorization, if_pos hpermits]
    rfl

/-- Only finance approvals depend on the workflow. -/
theorem mem_canonicalAuthorizations {authorization : StandingAuthorization}
    (h : authorization.role = "quality_approver") :
    authorization ∈ command.canonicalAuthorizations ↔
      authorization ∈ command.standingAuthorizations := by
  rw [AnalyzeCaseCommand.canonicalAuthorizations, List.mem_insertionSort, standingAuthorizationsFor]
  split
  · rfl
  · rw [List.mem_filter, decide_eq_true_eq, h]
    exact and_iff_left (by decide)

/-- The satisfactions of an option are its own. -/
theorem qualitySatisfied_iff {validation : EvidenceValidation} (hids : DistinctIds bases)
    {base : ResponseOption} (hbase : base ∈ bases)
    (hquality : "quality_approver" ∈ base.prerequisiteRoles) :
    QualitySatisfied (satisfactionsOf command
        (applyEvidenceFeasibility (canonicalOptions bases) validation))
        (withEvidenceCodes validation base) ↔
      QualityApproved command base := by
  have hmem : ∀ {o}, o ∈ canonicalOptions bases ↔ o ∈ bases := List.mem_insertionSort _
  simp only [QualitySatisfied, satisfactionsOf, evaluateApprovalSatisfactions,
    applyEvidenceFeasibility, List.mem_flatMap, List.mem_map, hmem,
    mem_evaluateApprovalSatisfaction]
  constructor
  · rintro ⟨_, ⟨_, ⟨other, hother, rfl⟩, authorization, hauthorization, -, -, hpersona, hpermits,
      rfl⟩, hrole, -, hid⟩
    obtain rfl := hids.eq hother hbase hid
    have hrole : authorization.role = "quality_approver" := hrole
    refine ⟨authorization, (mem_canonicalAuthorizations hrole).mp hauthorization, hrole,
      hpersona _ ?_, hpermits⟩
    rw [hrole]
    rfl
  · rintro ⟨authorization, hauthorization, hrole, hpersona, hpermits⟩
    refine ⟨_, ⟨_, ⟨base, hbase, rfl⟩, authorization,
      (mem_canonicalAuthorizations hrole).mpr hauthorization, ?_, ?_, ?_, hpermits, rfl⟩, hrole,
      rfl, rfl⟩
    · rw [hrole]
      exact hquality
    · rw [hrole]
      decide
    · intro persona hmem
      rw [hrole] at hmem
      rw [hpersona]
      exact Option.some.inj hmem

/-- The pass over the approvals keeps everything but the block. -/
theorem withQualityApproval_eq {α : Type} {f : ResponseOption → α}
    (hf : ∀ option executable codes,
      f { option with executable := executable, blockingCodes := codes } = f option)
    (satisfactions : List ApprovalSatisfaction) (option : ResponseOption) :
    f (withQualityApproval satisfactions option) = f option := by
  unfold withQualityApproval
  split
  · exact hf _ _ _
  · rfl

@[simp] theorem withQualityApproval_optionId (satisfactions : List ApprovalSatisfaction)
    (option : ResponseOption) :
    (withQualityApproval satisfactions option).optionId = option.optionId :=
  withQualityApproval_eq (fun _ _ _ => rfl) satisfactions option

@[simp] theorem withQualityApproval_optionKind (satisfactions : List ApprovalSatisfaction)
    (option : ResponseOption) :
    (withQualityApproval satisfactions option).optionKind = option.optionKind :=
  withQualityApproval_eq (fun _ _ _ => rfl) satisfactions option

@[simp] theorem withQualityApproval_predicted (satisfactions : List ApprovalSatisfaction)
    (option : ResponseOption) :
    (withQualityApproval satisfactions option).predicted = option.predicted :=
  withQualityApproval_eq (fun _ _ _ => rfl) satisfactions option

@[simp] theorem withQualityApproval_prerequisiteRoles (satisfactions : List ApprovalSatisfaction)
    (option : ResponseOption) :
    (withQualityApproval satisfactions option).prerequisiteRoles = option.prerequisiteRoles :=
  withQualityApproval_eq (fun _ _ _ => rfl) satisfactions option

theorem withQualityApproval_executable {satisfactions : List ApprovalSatisfaction}
    {option : ResponseOption} :
    (withQualityApproval satisfactions option).executable = true ↔
      option.executable = true ∧ ("quality_approver" ∈ option.prerequisiteRoles →
        QualitySatisfied satisfactions option) := by
  unfold withQualityApproval
  split
  · next h => exact ⟨fun hfalse => (nomatch hfalse), fun h' => absurd (h'.2 h.2.1) h.2.2⟩
  · next h =>
    push Not at h
    exact ⟨fun hexecutable => ⟨hexecutable, h hexecutable⟩, fun h' => h'.1⟩

/-- An executable option has no blocking codes. -/
theorem blockingCodes_of_executable {validation : EvidenceValidation}
    {satisfactions : List ApprovalSatisfaction} {option : ResponseOption}
    (h : (withQualityApproval satisfactions (withEvidenceCodes validation option)).executable =
      true) :
    (withQualityApproval satisfactions (withEvidenceCodes validation option)).blockingCodes = [] := by
  obtain ⟨hexecutable, hquality⟩ := withQualityApproval_executable.mp h
  obtain ⟨-, hcodes, hevidence⟩ := withEvidenceCodes_executable.mp hexecutable
  rw [withQualityApproval, if_neg fun hblocked => hblocked.2.2 (hquality hblocked.2.1)]
  exact eraseDups_eq_nil.mpr (List.append_eq_nil_iff.mpr ⟨hcodes, hevidence⟩)

/-! ### The ranking -/

theorem rankStage_subset {comparator : Comparator} {remaining : List ResponseOption}
    {stage : RankingStage × List ResponseOption} (h : rankStage comparator remaining = .ok stage) :
    ∀ o ∈ stage.2, o ∈ remaining := by
  intro o ho
  unfold rankStage at h
  split at h
  · obtain ⟨best, hbest, h⟩ := bind_eq_ok.mp h
    obtain rfl := Except.ok.inj h
    obtain rfl := List.mem_singleton.mp ho
    cases remaining with
    | nil => cases hbest
    | cons first rest =>
      obtain ⟨best, hmem, hleast, -⟩ := leastId_eq_ok (List.cons_ne_nil first rest)
      rw [hbest] at hleast
      exact Except.ok.inj hleast ▸ hmem
  · obtain ⟨values, -, h⟩ := bind_eq_ok.mp h
    obtain ⟨_, -, h⟩ := bind_eq_ok.mp h
    obtain ⟨_, -, h⟩ := bind_eq_ok.mp h
    obtain rfl := Except.ok.inj h
    obtain ⟨pair, hpair, rfl⟩ := List.mem_map.mp ho
    exact (List.of_mem_zip (List.mem_filter.mp hpair).1).1

theorem rankStages_subset {comparators : List Comparator} {remaining : List ResponseOption}
    {ranked : List RankingStage × List ResponseOption}
    (h : rankStages comparators remaining = .ok ranked) : ∀ o ∈ ranked.2, o ∈ remaining := by
  induction comparators generalizing remaining ranked with
  | nil =>
    obtain rfl := Except.ok.inj h
    exact fun _ ho => ho
  | cons comparator rest ih =>
    obtain ⟨stage, hstage, h⟩ := bind_eq_ok.mp h
    have hsubset := rankStage_subset hstage
    split at h
    · obtain rfl := Except.ok.inj h
      exact hsubset
    · obtain ⟨later, hlater, h⟩ := bind_eq_ok.mp h
      obtain rfl := Except.ok.inj h
      exact fun o ho => hsubset o (ih hlater o ho)

/-- The eligible ids, and that the recommended one is among them. -/
theorem rankOptions_spec {options : List ResponseOption} {ranking : RankingResult}
    (h : rankOptions options = .ok ranking) :
    ranking.eligibleOptionIds = (eligibleOptions options).map ResponseOption.optionId ∧
      ∀ id ∈ ranking.recommendedOptionId, id ∈ ranking.eligibleOptionIds := by
  have hids : DistinctIds options := by
    by_contra hdup
    rw [DistinctIds] at hdup
    rw [rankOptions, if_pos hdup] at h
    cases h
  by_cases hnil : eligibleOptions options = []
  · rw [rankOptions_of_eligible_nil hids hnil] at h
    obtain rfl := Except.ok.inj h
    exact ⟨rfl, fun id hid => absurd hid (Option.not_mem_none id)⟩
  · obtain ⟨stages, final, hstages, rfl⟩ := (rankOptions_eq_ok hids hnil).mp h
    refine ⟨rfl, fun id hid => ?_⟩
    obtain ⟨best, hbest, rfl⟩ := Option.map_eq_some_iff.mp hid
    exact List.mem_map_of_mem (rankStages_subset hstages best (List.mem_of_mem_head? hbest))

/-! ### The result -/

namespace AnalyzedFrom

/-- The options of the analysis come from the options that were evaluated. -/
theorem mem_responseOptions (h : AnalyzedFrom env unicode isIpv6 command bases analysis)
    {option : ResponseOption} :
    option ∈ analysis.responseOptions ↔ ∃ base ∈ bases,
      withQualityApproval analysis.approvalSatisfactions
        (withEvidenceCodes analysis.evidenceValidation base) = option := by
  rw [h.options, finalOptions, ← h.satisfactions]
  simp only [applyQualityApprovalFeasibility, applyEvidenceFeasibility, canonicalOptions,
    List.mem_map, List.mem_insertionSort]
  constructor
  · rintro ⟨_, ⟨base, hbase, rfl⟩, rfl⟩
    exact ⟨base, hbase, rfl⟩
  · rintro ⟨base, hbase, rfl⟩
    exact ⟨_, ⟨base, hbase, rfl⟩, rfl⟩

theorem qualitySatisfied_iff (h : AnalyzedFrom env unicode isIpv6 command bases analysis)
    {base : ResponseOption} (hbase : base ∈ bases)
    (hquality : "quality_approver" ∈ base.prerequisiteRoles) :
    QualitySatisfied analysis.approvalSatisfactions
        (withEvidenceCodes analysis.evidenceValidation base) ↔ QualityApproved command base := by
  rw [h.satisfactions]
  exact SupplyResponse.qualitySatisfied_iff h.checked.optionIds hbase hquality

theorem executable_iff (h : AnalyzedFrom env unicode isIpv6 command bases analysis)
    {base : ResponseOption} (hbase : base ∈ bases) :
    (withQualityApproval analysis.approvalSatisfactions
        (withEvidenceCodes analysis.evidenceValidation base)).executable = true ↔
      MayExecute command analysis base := by
  have hquality : ("quality_approver" ∈ base.prerequisiteRoles →
      QualitySatisfied analysis.approvalSatisfactions
        (withEvidenceCodes analysis.evidenceValidation base)) ↔
      ("quality_approver" ∈ base.prerequisiteRoles → QualityApproved command base) :=
    forall_congr' fun hrole => h.qualitySatisfied_iff hbase hrole
  rw [withQualityApproval_executable, withEvidenceCodes_executable,
    withEvidenceCodes_prerequisiteRoles, hquality, h.evidenceCodes_eq_nil hbase]
  constructor
  · rintro ⟨⟨hexecutable, hcodes, hcovered, hsupported⟩, happroved⟩
    exact ⟨hexecutable, hcodes, hcovered, hsupported, happroved⟩
  · exact fun hmay =>
      ⟨⟨hmay.executable, hmay.unblocked, hmay.covered, hmay.supported⟩, hmay.approved⟩

end AnalyzedFrom

/-- An option of an analysis is executable exactly when its base is and nothing of
evidence or approval is missing; the ranking is over the executable mitigations with a
prediction, and recommends one of them. -/
theorem analyzeCase_executable (env : Env) (unicode : Text.Unicode) (isIpv6 : String → Bool)
    (command : AnalyzeCaseCommand) (analysis : AnalysisVersion)
    (h : analyzeCase env unicode isIpv6 command = .ok analysis) :
    (∃ bases, evaluateResponseOptions command.operationalSnapshot = .ok bases ∧
      ∀ option ∈ analysis.responseOptions, ∃ base ∈ bases, base.optionId = option.optionId ∧
        (option.executable = true ↔ MayExecute command analysis base)) ∧
    (∀ id, id ∈ analysis.ranking.eligibleOptionIds ↔
      ∃ option ∈ analysis.responseOptions, option.optionId = id ∧ option.executable = true ∧
        option.activeMitigation = true ∧ option.predicted.isSome = true) ∧
    ∀ id ∈ analysis.ranking.recommendedOptionId, id ∈ analysis.ranking.eligibleOptionIds := by
  obtain ⟨bases, hanalyzed⟩ := analyzeCase_spec h
  obtain ⟨heligible, hrecommended⟩ := rankOptions_spec hanalyzed.ranked
  refine ⟨⟨bases, hanalyzed.evaluated, fun option hmem => ?_⟩, fun id => ?_, hrecommended⟩
  · obtain ⟨base, hbase, rfl⟩ := hanalyzed.mem_responseOptions.mp hmem
    exact ⟨base, hbase, by simp, hanalyzed.executable_iff hbase⟩
  · rw [heligible, List.mem_map]
    constructor
    · rintro ⟨option, hmem, rfl⟩
      obtain ⟨hmem, hactive, hfeasible⟩ := mem_eligibleOptions.mp hmem
      simp only [ResponseOption.isFeasible, Bool.and_eq_true] at hfeasible
      exact ⟨option, hmem, rfl, hfeasible.1.1, hactive, hfeasible.1.2⟩
    · rintro ⟨option, hmem, rfl, hexecutable, hactive, hpredicted⟩
      refine ⟨option, mem_eligibleOptions.mpr ⟨hmem, hactive, ?_⟩, rfl⟩
      obtain ⟨base, -, rfl⟩ := hanalyzed.mem_responseOptions.mp hmem
      have hcodes := blockingCodes_of_executable hexecutable
      simp only [ResponseOption.isFeasible, hexecutable, hpredicted, hcodes, List.isEmpty_nil,
        Bool.and_self]

end

/-! ### The demonstration case -/

def rl001Case : CaseInstance where
  caseId := "RL-CASE-1"
  templateId := "RL-001"
  purpose := .rehearsal
  runtimeMode := .fallback
  scenarioEffectiveTime := scenarioEffectiveTime
  workflowVersion := some .independentFinance

/-- A fact of the operational data base. -/
def rl001Evidence (evidenceId : String) : EvidenceItem where
  evidenceId := evidenceId
  caseId := "RL-CASE-1"
  kind := .operationalFact
  authorityScope := [.operationalQuantity, .operationalDate]
  sourceSystem := .sqlite
  sourceId := evidenceId
  sourceTimestamp := some scenarioEffectiveTime
  retrievedAt := some (scenarioEffectiveTime + 1)
  retrievedForAnalysisId := "RL-ANALYSIS-1"
  retrievalHealth := .healthy
  effectiveAt := none
  expiresAt := none
  claim := "Quantity and date are confirmed."
  excerpt := none
  citationUrl := none
  runtimeMode := .fallback
  synthetic := true
  requirement := .requiredAuthoritative
  uncertaintyState := .certain
  citationClassification := none
  navigableCitationUrl := none
  citationTrustedHost := none

/-- The analysis of the demonstration case, with facts about the receipt and the transfer. -/
def rl001Command : AnalyzeCaseCommand where
  analysisId := "RL-ANALYSIS-1"
  case := rl001Case
  corpus := .demoCorpus
  operationalSnapshot := .rl001 "RL-CASE-1" .fallback
  evidenceItems :=
    [rl001Evidence "RL-TRANSFER-DAL-CHI-1500", rl001Evidence "RL-ALPHA-OPTIONAL-3000"]
  analysisStartedAt := scenarioEffectiveTime
  createdAt := scenarioEffectiveTime + 2
  calculationVersion := "exposure-v1"
  requiredAuthorityScope := [.operationalQuantity]

/-- Texts of ASCII characters. -/
def asciiTexts : Text.Unicode :=
  ⟨fun s => String.ofList (s.toList.map Char.toLower),
    fun s => String.ofList (s.toList.map Char.toLower), id⟩

theorem exists_of_isOk {α ε : Type} {x : Except ε α} (h : x.isOk = true) : ∃ a, x = .ok a := by
  cases x with
  | ok a => exact ⟨a, rfl⟩
  | error e => cases h

theorem analyzeCase_executable_sample :
    ∃ analysis, analyzeCase sampleEnv asciiTexts (fun _ => false) rl001Command = .ok analysis ∧
      ∀ id ∈ analysis.ranking.recommendedOptionId, id ∈ analysis.ranking.eligibleOptionIds := by
  obtain ⟨analysis, h⟩ := exists_of_isOk
    (x := analyzeCase sampleEnv asciiTexts (fun _ => false) rl001Command) (by decide +kernel)
  exact ⟨analysis, h,
    (analyzeCase_executable sampleEnv asciiTexts (fun _ => false) rl001Command analysis h).2.2⟩

/-- Of the six options, the four that the facts support are executable. -/
example : (analyzeCase sampleEnv asciiTexts (fun _ => false) rl001Command).map
    (fun analysis => (analysis.responseOptions.filter ResponseOption.executable).map
      ResponseOption.optionId) =
    .ok ["RL-OPTION-COMBINED", "RL-OPTION-EXPEDITE", "RL-OPTION-RESEQUENCE",
      "RL-OPTION-TRANSFER"] := by decide +kernel

end SupplyResponse
