/-
Conflicts and resolutions beside an analysis.

* `MoreOpen` — two commands that differ in their conflicts and resolutions only,
  where the items that open conflicts name are named in the second one too;
* `MoreOpen.authoritative`, `MoreOpen.executable` — the second analysis has no
  authoritative item and no executable option that the first one has not;
* `AcceptedResolver` — who resolves a conflict, and which items it has;
* `conflicts_block_resolutions_unblock` — one conflict more, one resolution more.
-/
import SupplyResponse.Analysis.Executability

namespace SupplyResponse

variable {env : Env} {unicode : Text.Unicode} {isIpv6 : String → Bool}

/-! ### What an analysis says of ids -/

/-- The item with the id is authoritative. -/
def AnalysisVersion.Authoritative (analysis : AnalysisVersion) (evidenceId : String) : Prop :=
  ∃ result ∈ analysis.evidenceValidation.itemResults, result.evidenceId = evidenceId ∧
    result.authoritative = true

/-- The option with the id is executable. -/
def AnalysisVersion.Executable (analysis : AnalysisVersion) (optionId : String) : Prop :=
  ∃ option ∈ analysis.responseOptions, option.optionId = optionId ∧ option.executable = true

/-- An authoritative item speaks for the scope. -/
def AnalysisVersion.Covers (analysis : AnalysisVersion) (scope : AuthorityScope) : Prop :=
  ∃ result ∈ analysis.evidenceValidation.itemResults, result.authoritative = true ∧
    scope ∈ result.validatedAuthorityScope

/-- An open conflict names the item. -/
def AnalyzeCaseCommand.InConflict (command : AnalyzeCaseCommand) (evidenceId : String) : Prop :=
  ∃ conflict ∈ command.conflicts, conflict.IsOpen command.conflictResolutions ∧
    evidenceId ∈ conflict.evidenceIds

/-! ### More open conflicts -/

/-- The same command, but for the conflicts and resolutions; every item in conflict in
the first one is so in the second one. -/
structure MoreOpen (command command' : AnalyzeCaseCommand) : Prop where
  same : { command with
    conflicts := command'.conflicts
    conflictResolutions := command'.conflictResolutions } = command'
  inConflict : ∀ id, command.InConflict id → command'.InConflict id

section

variable {command command' : AnalyzeCaseCommand} {bases bases' : List ResponseOption}
  {analysis analysis' : AnalysisVersion}

namespace AnalyzedFrom

theorem globallyBlocked_iff :
    GloballyBlocked command analysis ↔
      ∃ scope ∈ command.requiredAuthorityScope, ¬ analysis.Covers scope := by
  simp only [GloballyBlocked, AnalysisVersion.Covers, not_exists, not_and]

/-- The results of an analysis, by their items. -/
theorem mem_itemResults (h : AnalyzedFrom env unicode isIpv6 command bases analysis)
    {result : EvidenceItemValidation} :
    result ∈ analysis.evidenceValidation.itemResults ↔ ∃ item ∈ command.evidenceItems,
      itemResult command.context
        (openIds command.canonicalConflicts command.canonicalResolutions) item
        (cites unicode isIpv6 command.context item) = result := by
  rw [h.itemResults_eq, mem_resultsOf]
  simp only [mem_sortedEvidence]

end AnalyzedFrom

namespace MoreOpen

theorem evidenceItems (h : MoreOpen command command') :
    command'.evidenceItems = command.evidenceItems := by rw [← h.same]

theorem context (h : MoreOpen command command') : command'.context = command.context := by
  rw [← h.same]
  rfl

theorem requiredAuthorityScope (h : MoreOpen command command') :
    command'.requiredAuthorityScope = command.requiredAuthorityScope := by rw [← h.same]

/-- Both snapshots are the same, and so are the options that are evaluated. -/
theorem bases_eq (h : MoreOpen command command')
    (hanalyzed : AnalyzedFrom env unicode isIpv6 command bases analysis)
    (hanalyzed' : AnalyzedFrom env unicode isIpv6 command' bases' analysis') : bases' = bases := by
  have hsnapshot : command'.operationalSnapshot = command.operationalSnapshot := by rw [← h.same]
  have hevaluated := hanalyzed'.evaluated
  rw [hsnapshot, hanalyzed.evaluated] at hevaluated
  exact (Except.ok.inj hevaluated).symm

theorem qualityApproved_iff (h : MoreOpen command command') {option : ResponseOption} :
    QualityApproved command' option ↔ QualityApproved command option := by
  rw [← h.same]
  exact Iff.rfl

/-- A result of the second analysis, and the result of the same item in the first one. -/
theorem result_of_authoritative (h : MoreOpen command command')
    (hanalyzed : AnalyzedFrom env unicode isIpv6 command bases analysis)
    (hanalyzed' : AnalyzedFrom env unicode isIpv6 command' bases' analysis')
    {result : EvidenceItemValidation}
    (hresult : result ∈ analysis'.evidenceValidation.itemResults)
    (hauthoritative : result.authoritative = true) :
    ∃ result₀ ∈ analysis.evidenceValidation.itemResults, result₀.authoritative = true ∧
      result₀.evidenceId = result.evidenceId ∧
      result₀.validatedAuthorityScope = result.validatedAuthorityScope := by
  obtain ⟨item, hitem, rfl⟩ := hanalyzed'.mem_itemResults.mp hresult
  obtain ⟨hrequired, hcodes, hopen, hcertain⟩ := itemResult_authoritative.mp hauthoritative
  rw [h.evidenceItems] at hitem
  rw [h.context] at hcodes
  refine ⟨_, hanalyzed.mem_itemResults.mpr ⟨item, hitem, rfl⟩, ?_, rfl, ?_⟩
  · refine itemResult_authoritative.mpr ⟨hrequired, hcodes, fun hmem => hopen ?_, hcertain⟩
    exact mem_openIds_canonical.mpr (h.inConflict _ (mem_openIds_canonical.mp hmem))
  · simp only [itemResult, h.context]

/-- The second analysis has no authoritative item that the first one has not. -/
theorem authoritative (h : MoreOpen command command')
    (hanalyzed : AnalyzedFrom env unicode isIpv6 command bases analysis)
    (hanalyzed' : AnalyzedFrom env unicode isIpv6 command' bases' analysis') {id : String}
    (hid : analysis'.Authoritative id) : analysis.Authoritative id := by
  obtain ⟨result, hresult, rfl, hauthoritative⟩ := hid
  obtain ⟨result₀, hresult₀, hauthoritative₀, hid, -⟩ :=
    h.result_of_authoritative hanalyzed hanalyzed' hresult hauthoritative
  exact ⟨result₀, hresult₀, hid, hauthoritative₀⟩

theorem covers (h : MoreOpen command command')
    (hanalyzed : AnalyzedFrom env unicode isIpv6 command bases analysis)
    (hanalyzed' : AnalyzedFrom env unicode isIpv6 command' bases' analysis')
    {scope : AuthorityScope} (hscope : analysis'.Covers scope) : analysis.Covers scope := by
  obtain ⟨result, hresult, hauthoritative, hmem⟩ := hscope
  obtain ⟨result₀, hresult₀, hauthoritative₀, -, hvalidated⟩ :=
    h.result_of_authoritative hanalyzed hanalyzed' hresult hauthoritative
  exact ⟨result₀, hresult₀, hauthoritative₀, hvalidated ▸ hmem⟩

theorem supports (h : MoreOpen command command') {requirement : ResponseOptionEvidenceRequirement}
    {item : EvidenceItem} (hsupports : Supports command' requirement item) :
    Supports command requirement item := by
  have hopen : ∀ conflict ∈ command.conflicts, conflict.IsOpen command.conflictResolutions →
      item.evidenceId ∉ conflict.evidenceIds := by
    intro conflict hconflict hopen hnamed
    obtain ⟨other, hother, hopen', hnamed'⟩ := h.inConflict _ ⟨conflict, hconflict, hopen, hnamed⟩
    exact hsupports.unconflicted other hother hopen' hnamed'
  obtain ⟨hnamed, hrequired, hsource, hpermitted, hretrieval, hwindow, hordered, heffective,
    hunexpired, -, hcertain, hscopes⟩ := hsupports
  rw [← h.same] at hsource hretrieval hwindow heffective hunexpired hscopes
  exact ⟨hnamed, hrequired, hsource, hpermitted, hretrieval, hwindow, hordered, heffective,
    hunexpired, hopen, hcertain, hscopes⟩

/-- The second analysis has no executable option that the first one has not. -/
theorem executable (h : MoreOpen command command')
    (hanalyzed : AnalyzedFrom env unicode isIpv6 command bases analysis)
    (hanalyzed' : AnalyzedFrom env unicode isIpv6 command' bases' analysis') {id : String}
    (hid : analysis'.Executable id) : analysis.Executable id := by
  obtain ⟨option, hoption, rfl, hexecutable⟩ := hid
  obtain ⟨base, hbase, rfl⟩ := hanalyzed'.mem_responseOptions.mp hoption
  have hmay := (hanalyzed'.executable_iff hbase).mp hexecutable
  rw [h.bases_eq hanalyzed hanalyzed'] at hbase
  refine ⟨_, hanalyzed.mem_responseOptions.mpr ⟨base, hbase, rfl⟩, by simp,
    (hanalyzed.executable_iff hbase).mpr
      { executable := hmay.executable
        unblocked := hmay.unblocked
        covered := fun hactive hblocked => hmay.covered hactive ?_
        supported := fun requirement hrequirement => ?_
        approved := fun hrole => h.qualityApproved_iff.mp (hmay.approved hrole) }⟩
  · obtain ⟨scope, hscope, huncovered⟩ := AnalyzedFrom.globallyBlocked_iff.mp hblocked
    rw [← h.requiredAuthorityScope] at hscope
    exact AnalyzedFrom.globallyBlocked_iff.mpr
      ⟨scope, hscope, fun hcovers => huncovered (h.covers hanalyzed hanalyzed' hcovers)⟩
  · obtain ⟨item, hitem, hsupports⟩ := hmay.supported requirement hrequirement
    rw [h.evidenceItems] at hitem
    exact ⟨item, hitem, h.supports hsupports⟩

/-! ### Options that a conflict does not touch -/

/-- The item is in conflict in both commands or in neither. -/
def Untouched (command command' : AnalyzeCaseCommand) (evidenceId : String) : Prop :=
  command'.InConflict evidenceId → command.InConflict evidenceId

theorem requirementCodes_eq (h : MoreOpen command command')
    (hanalyzed : AnalyzedFrom env unicode isIpv6 command bases analysis)
    (hanalyzed' : AnalyzedFrom env unicode isIpv6 command' bases' analysis')
    {requirement : ResponseOptionEvidenceRequirement}
    (huntouched : Untouched command command' requirement.evidenceId) :
    requirementCodes analysis'.evidenceValidation.itemResults requirement =
      requirementCodes analysis.evidenceValidation.itemResults requirement := by
  have hids := sortedEvidence_ids hanalyzed.checked.evidenceIds
  have hmem : ∀ item : EvidenceItem, item.evidenceId = requirement.evidenceId →
      (item.evidenceId ∈ openIds command'.canonicalConflicts command'.canonicalResolutions ↔
        item.evidenceId ∈ openIds command.canonicalConflicts command.canonicalResolutions) := by
    intro item hid
    rw [hid, mem_openIds_canonical, mem_openIds_canonical]
    exact ⟨huntouched, h.inConflict _⟩
  have hresult : ∀ (item : EvidenceItem) (cited : Bool),
      item.evidenceId = requirement.evidenceId →
      itemResult command.context
          (openIds command'.canonicalConflicts command'.canonicalResolutions) item cited =
        itemResult command.context
          (openIds command.canonicalConflicts command.canonicalResolutions) item cited := by
    intro item cited hid
    have huncertain : uncertaintyOf item
          (openIds command'.canonicalConflicts command'.canonicalResolutions) =
        uncertaintyOf item (openIds command.canonicalConflicts command.canonicalResolutions) := by
      unfold uncertaintyOf
      simp only [hmem item hid]
    unfold itemResult
    rw [huncertain]
  have hfor : validationFor analysis'.evidenceValidation.itemResults requirement.evidenceId =
      validationFor analysis.evidenceValidation.itemResults requirement.evidenceId := by
    rw [hanalyzed'.itemResults_eq, hanalyzed.itemResults_eq, h.context, h.evidenceItems]
    refine Option.ext fun result => ?_
    rw [validationFor_eq_some hids, validationFor_eq_some hids]
    exact exists_congr fun item => and_congr_right fun _ => and_congr_right fun hid => by
      rw [hresult item _ hid]
  unfold requirementCodes
  rw [hfor]

/-- An option whose items are untouched stays as it is, unless a required scope is no
longer covered. -/
theorem option_unchanged (h : MoreOpen command command')
    (hanalyzed : AnalyzedFrom env unicode isIpv6 command bases analysis)
    (hanalyzed' : AnalyzedFrom env unicode isIpv6 command' bases' analysis')
    {option : ResponseOption} (hoption : option ∈ analysis.responseOptions)
    (huntouched : ∀ requirement ∈ option.evidenceRequirements,
      Untouched command command' requirement.evidenceId)
    (hcovered : ∀ scope ∈ command.requiredAuthorityScope,
      analysis.Covers scope → analysis'.Covers scope) : option ∈ analysis'.responseOptions := by
  obtain ⟨base, hbase, rfl⟩ := hanalyzed.mem_responseOptions.mp hoption
  have hrequirements : (withQualityApproval analysis.approvalSatisfactions
      (withEvidenceCodes analysis.evidenceValidation base)).evidenceRequirements =
        base.evidenceRequirements := by
    unfold withQualityApproval
    split
    · rfl
    · rfl
  rw [hrequirements] at huntouched
  have hblocked : GloballyBlocked command' analysis' ↔ GloballyBlocked command analysis := by
    rw [AnalyzedFrom.globallyBlocked_iff, AnalyzedFrom.globallyBlocked_iff,
      h.requiredAuthorityScope]
    exact exists_congr fun scope => and_congr_right fun hscope => not_congr
      ⟨h.covers hanalyzed hanalyzed', hcovered scope hscope⟩
  have hglobal : analysis'.evidenceValidation.globalBlockingCodes =
      analysis.evidenceValidation.globalBlockingCodes := by
    -- there is one global code, which is there when the analysis is blocked
    have hcode : ∀ {c : AnalyzeCaseCommand} {bs a},
        AnalyzedFrom env unicode isIpv6 c bs a →
        a.evidenceValidation.globalBlockingCodes = [] ∨
          a.evidenceValidation.globalBlockingCodes = [.authorityScopeMismatch] := by
      intro c bs a ha
      rw [ha.evidence.eq]
      cases hmismatch : authorityMismatch (resultsOf unicode isIpv6 c.context
        (openIds c.canonicalConflicts c.canonicalResolutions) (sortedEvidence c.evidenceItems))
        c.canonicalRequiredScope with
      | false => exact .inl (by simp [evidenceValidationOf, hmismatch, codeIf])
      | true => exact .inr (by simp [evidenceValidationOf, hmismatch, codeIf])
    have hiff : analysis'.evidenceValidation.globalBlockingCodes = [] ↔
        analysis.evidenceValidation.globalBlockingCodes = [] := by
      rw [hanalyzed'.globalBlockingCodes_eq_nil, hanalyzed.globalBlockingCodes_eq_nil, hblocked]
    rcases hcode hanalyzed with hnil | hsome
    · rw [hnil, hiff.mpr hnil]
    · rcases hcode hanalyzed' with hnil' | hsome'
      · rw [hiff.mp hnil'] at hsome
        cases hsome
      · rw [hsome, hsome']
  have hcodes : evidenceCodes analysis'.evidenceValidation base =
      evidenceCodes analysis.evidenceValidation base := by
    have hflat : base.evidenceRequirements.flatMap
          (requirementCodes analysis'.evidenceValidation.itemResults) =
        base.evidenceRequirements.flatMap
          (requirementCodes analysis.evidenceValidation.itemResults) :=
      List.flatMap_congr fun requirement hrequirement =>
        h.requirementCodes_eq hanalyzed hanalyzed' (huntouched requirement hrequirement)
    rw [evidenceCodes, evidenceCodes, hglobal, hflat]
  have heq : withEvidenceCodes analysis'.evidenceValidation base =
      withEvidenceCodes analysis.evidenceValidation base := by
    unfold withEvidenceCodes
    rw [hcodes]
  have hbase' := hbase
  rw [← h.bases_eq hanalyzed hanalyzed'] at hbase'
  have hquality : "quality_approver" ∈ base.prerequisiteRoles →
      (QualitySatisfied analysis'.approvalSatisfactions
        (withEvidenceCodes analysis.evidenceValidation base) ↔
      QualitySatisfied analysis.approvalSatisfactions
        (withEvidenceCodes analysis.evidenceValidation base)) := by
    intro hrole
    rw [hanalyzed.qualitySatisfied_iff hbase hrole, ← heq,
      hanalyzed'.qualitySatisfied_iff hbase' hrole]
    exact h.qualityApproved_iff
  refine hanalyzed'.mem_responseOptions.mpr ⟨base, hbase', ?_⟩
  rw [heq]
  unfold withQualityApproval
  refine if_congr (and_congr_right fun _ => and_congr_right fun hrole => ?_) rfl rfl
  exact not_congr (hquality hrole)

end MoreOpen

/-! ### Who resolves a conflict -/

/-- The actor has roles of its persona only, one of them for all scopes of the conflict,
and all items of the conflict speak for all its scopes. -/
structure AcceptedResolver (command : AnalyzeCaseCommand) (conflict : EvidenceConflict)
    (actor : ActorProvenance) : Prop where
  entra : actor.identitySource = .entra
  source : personaSourceIds actor.personaId = some actor.sourceId
  roles : ∃ recognized ∈ personaRoles actor.personaId, ∀ role ∈ actor.roles, role ∈ recognized
  permitted : ∃ role ∈ actor.roles,
    ∀ scope ∈ conflict.authorityScope, role ∈ scopeResolverRoles scope
  validated : ∀ id ∈ conflict.evidenceIds, ∃ item ∈ command.evidenceItems, item.evidenceId = id ∧
    ∀ scope ∈ conflict.authorityScope, scope ∈ validatedScope item command.case.runtimeMode

theorem acceptedResolver_of {conflict : EvidenceConflict} {actor : ActorProvenance}
    (hconflict : ConflictAccepted command.case.runtimeMode (sortedEvidence command.evidenceItems)
      conflict)
    (hactor : ActorIsAuthorized conflict.authorityScope actor) :
    AcceptedResolver command conflict actor := by
  obtain ⟨hentra, -, -, -, hroles, hsource, -, hpermitted⟩ := hactor
  refine ⟨hentra, hsource, hroles, hpermitted, fun id hid => ?_⟩
  obtain ⟨item, hitem, hitemId, hscopes⟩ := hconflict.validated id hid
  exact ⟨item, mem_sortedEvidence.mp hitem, hitemId, hscopes⟩

theorem resolver_of_command (h : AnalyzedFrom env unicode isIpv6 command bases analysis)
    {resolution : ConflictResolution} (hresolution : resolution ∈ command.conflictResolutions) :
    ∃ conflict ∈ command.conflicts, conflict.conflictId = resolution.conflictId ∧
      AcceptedResolver command conflict resolution.actor := by
  obtain ⟨conflict, hconflict, hid, -, hactor⟩ :=
    (h.evidence.resolutionsAccepted resolution (by
      rw [AnalyzeCaseCommand.canonicalResolutions, List.mem_insertionSort]
      exact hresolution)).conflict
  exact ⟨conflict, mem_canonicalConflicts.mp hconflict, hid,
    acceptedResolver_of (h.evidence.conflictsAccepted conflict hconflict) hactor⟩

/-- A resolution that is built beside the analysis. -/
theorem resolver_of_resolveConflict (h : AnalyzedFrom env unicode isIpv6 command bases analysis)
    {conflict : EvidenceConflict} {actor : ActorProvenance} {governingEvidenceId why : String}
    {resolution : ConflictResolution}
    (hresolve : resolveConflict conflict analysis.evidenceValidation actor governingEvidenceId
      why = .ok resolution) : AcceptedResolver command conflict actor := by
  obtain ⟨_, -, hresolve⟩ := bind_eq_ok.mp hresolve
  obtain ⟨scope, hscope, hresolve⟩ := bind_eq_ok.mp hresolve
  obtain ⟨_, hactor, -⟩ := bind_eq_ok.mp hresolve
  rw [h.itemResults_eq, validatedConflictScope_eq_ok (sortedEvidence_ids h.checked.evidenceIds)]
    at hscope
  obtain ⟨hconflict, rfl⟩ := hscope
  exact acceptedResolver_of hconflict
    ((actorIsAuthorized_congr fun _ => mem_sortedSet).mp (requirePolicy_eq_ok.mp hactor))

/-! ### One more -/

theorem moreOpen_conflict {conflict : EvidenceConflict} {conflicts : List EvidenceConflict}
    (hconflicts : conflicts.Perm (conflict :: command.conflicts)) :
    MoreOpen command { command with conflicts := conflicts } := by
  refine ⟨rfl, fun id ⟨other, hother, hopen, hnamed⟩ => ⟨other, ?_, hopen, hnamed⟩⟩
  exact hconflicts.mem_iff.mpr (List.mem_cons_of_mem _ hother)

theorem moreOpen_resolution {resolution : ConflictResolution}
    {resolutions : List ConflictResolution}
    (hresolutions : resolutions.Perm (resolution :: command.conflictResolutions)) :
    MoreOpen { command with conflictResolutions := resolutions } command := by
  refine ⟨rfl, fun id ⟨other, hother, hopen, hnamed⟩ => ⟨other, hother, ⟨hopen.1, ?_⟩, hnamed⟩⟩
  exact fun r hr => hopen.2 r (hresolutions.mem_iff.mpr (List.mem_cons_of_mem _ hr))

end

/-- Beside an accepted command: one conflict more makes nothing authoritative or
executable, and leaves the options alone that ask for none of its items, unless a required
scope is no longer covered; one resolution more takes no executability away; and
resolutions come from actors who may resolve all scopes of the conflict. -/
theorem conflicts_block_resolutions_unblock (env : Env) (unicode : Text.Unicode)
    (isIpv6 : String → Bool) (command : AnalyzeCaseCommand) (analysis : AnalysisVersion)
    (h : analyzeCase env unicode isIpv6 command = .ok analysis) :
    (∀ conflict conflicts analysis', conflict.feasibilityRelevant = true →
      (∀ resolution ∈ command.conflictResolutions,
        resolution.conflictId ≠ conflict.conflictId) →
      conflicts.Perm (conflict :: command.conflicts) →
      analyzeCase env unicode isIpv6 { command with conflicts := conflicts } = .ok analysis' →
      (∀ id, analysis'.Authoritative id → analysis.Authoritative id) ∧
      (∀ id, analysis'.Executable id → analysis.Executable id) ∧
      ∀ option ∈ analysis.responseOptions,
        (∀ requirement ∈ option.evidenceRequirements,
          requirement.evidenceId ∉ conflict.evidenceIds) →
        option ∈ analysis'.responseOptions ∨ ∃ scope ∈ command.requiredAuthorityScope,
          analysis.Covers scope ∧ ¬ analysis'.Covers scope) ∧
    (∀ resolution resolutions analysis',
      resolutions.Perm (resolution :: command.conflictResolutions) →
      analyzeCase env unicode isIpv6 { command with conflictResolutions := resolutions } =
        .ok analysis' →
      ∀ id, analysis.Executable id → analysis'.Executable id) ∧
    (∀ resolution ∈ command.conflictResolutions,
      ∃ conflict ∈ command.conflicts, conflict.conflictId = resolution.conflictId ∧
        AcceptedResolver command conflict resolution.actor) ∧
    ∀ conflict actor governingEvidenceId why resolution,
      resolveConflict conflict analysis.evidenceValidation actor governingEvidenceId why =
        .ok resolution → AcceptedResolver command conflict actor := by
  obtain ⟨bases, hanalyzed⟩ := analyzeCase_spec h
  refine ⟨?_, ?_, fun resolution => resolver_of_command hanalyzed,
    fun _ _ _ _ _ => resolver_of_resolveConflict hanalyzed⟩
  · intro conflict conflicts analysis' _ _ hconflicts h'
    obtain ⟨bases', hanalyzed'⟩ := analyzeCase_spec h'
    have hmore := moreOpen_conflict hconflicts
    refine ⟨fun id => hmore.authoritative hanalyzed hanalyzed',
      fun id => hmore.executable hanalyzed hanalyzed', fun option hoption hrequirements => ?_⟩
    by_cases hcovered : ∀ scope ∈ command.requiredAuthorityScope,
        analysis.Covers scope → analysis'.Covers scope
    · refine .inl (hmore.option_unchanged hanalyzed hanalyzed' hoption ?_ hcovered)
      rintro requirement hrequirement ⟨other, hother, hopen, hnamed⟩
      rcases List.mem_cons.mp (hconflicts.mem_iff.mp hother) with rfl | hother
      · exact absurd hnamed (hrequirements requirement hrequirement)
      · exact ⟨other, hother, hopen, hnamed⟩
    · push Not at hcovered
      exact .inr hcovered
  · intro resolution resolutions analysis' hresolutions h' id
    obtain ⟨bases', hanalyzed'⟩ := analyzeCase_spec h'
    exact (moreOpen_resolution hresolutions).executable hanalyzed' hanalyzed

/-- A conflict about the transfer. -/
def rl001Conflict : EvidenceConflict where
  conflictId := "RL-CONFLICT-1"
  caseId := "RL-CASE-1"
  evidenceIds := ["RL-TRANSFER-DAL-CHI-1500"]
  authorityScope := [.operationalQuantity]
  description := "Two quantities are reported."
  feasibilityRelevant := true

theorem conflicts_block_resolutions_unblock_sample :
    ∃ analysis analysis',
      analyzeCase sampleEnv asciiTexts (fun _ => false) rl001Command = .ok analysis ∧
      analyzeCase sampleEnv asciiTexts (fun _ => false)
        { rl001Command with conflicts := [rl001Conflict] } = .ok analysis' ∧
      ∀ id, analysis'.Executable id → analysis.Executable id := by
  obtain ⟨analysis, h⟩ := exists_of_isOk
    (x := analyzeCase sampleEnv asciiTexts (fun _ => false) rl001Command) (by decide +kernel)
  obtain ⟨analysis', h'⟩ := exists_of_isOk
    (x := analyzeCase sampleEnv asciiTexts (fun _ => false)
      { rl001Command with conflicts := [rl001Conflict] }) (by decide +kernel)
  exact ⟨analysis, analysis', h, h',
    ((conflicts_block_resolutions_unblock sampleEnv asciiTexts (fun _ => false) rl001Command
      analysis h).1 rl001Conflict [rl001Conflict] analysis' rfl (fun r hr => absurd hr (List.not_mem_nil))
      (List.Perm.refl _) h').2.1⟩

/-- The conflict blocks the transfer and what is combined with it. -/
example : (analyzeCase sampleEnv asciiTexts (fun _ => false)
    { rl001Command with conflicts := [rl001Conflict] }).map
      (fun analysis => (analysis.responseOptions.filter ResponseOption.executable).map
        ResponseOption.optionId) =
    .ok ["RL-OPTION-EXPEDITE", "RL-OPTION-RESEQUENCE"] := by decide +kernel

end SupplyResponse
