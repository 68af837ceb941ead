/-
Analyses of permuted commands.

* `approvalEntry` — the approval that an authorization gives, as the material
  records it;
* `rankOptions_settled` — the ranking does not see the lineage;
* `AnalyzedFrom.material_eq` — two analyses of permuted commands whose items are
  validated alike have equal materials;
* `material_canonical` — so their hashes and rankings are equal.
-/
import SupplyResponse.Analysis.Canonical

namespace SupplyResponse

open Sorting

/-! ### The canonical snapshot -/

theorem sortedByStableId_perm {α : Type} {fieldName : String} {stableId : α → String}
    {items items' : List α} (h : items'.Perm items) :
    sortedByStableId fieldName stableId items' = sortedByStableId fieldName stableId items := by
  unfold sortedByStableId
  simp only [(h.map stableId).nodup_iff]
  split
  · next hids => exact congrArg _ (eq_of_perm h hids)
  · rfl

theorem sortedByStableId_nodup {α : Type} {fieldName : String} {stableId : α → String}
    {items sorted : List α} (h : sortedByStableId fieldName stableId items = .ok sorted) :
    (items.map stableId).Nodup := by
  unfold sortedByStableId at h
  split at h
  · assumption
  · cases h

theorem orderIds_of_canonical {s canonical : OperationalSnapshot}
    (h : canonicalOperationalSnapshot s = .ok canonical) : s.OrderIds := by
  obtain ⟨_, -, h⟩ := bind_eq_ok.mp h
  obtain ⟨_, hproduction, -⟩ := bind_eq_ok.mp h
  have hids := sortedByStableId_nodup hproduction
  rw [OperationalSnapshot.serialized, List.map_map] at hids
  exact hids

theorem OperationalSnapshot.Permutes.canonical_eq {s s' : OperationalSnapshot}
    (h : s.Permutes s') : canonicalOperationalSnapshot s' = canonicalOperationalSnapshot s := by
  obtain ⟨hinventory, hproduction, hcustomer, hsame⟩ := h
  rw [← hsame] at hinventory hproduction hcustomer ⊢
  unfold canonicalOperationalSnapshot OperationalSnapshot.serialized
  simp only [sortedByStableId_perm hinventory,
    sortedByStableId_perm (hproduction.map ProductionOrder.serialized),
    sortedByStableId_perm (hcustomer.map CustomerOrder.serialized)]

/-! ### Approvals -/

/-- The approval of an authorization in a role, as the material records it. -/
def approvalEntry (option : ResponseOption) (target : ApprovalTarget) (role : String)
    (authorization : StandingAuthorization) : Option AnalysisApprovalMaterial :=
  if authorization.role = role ∧
      (∀ persona ∈ approvalPersonas role, authorization.personaId = persona) ∧
      authorization.Permits option target then
    some (AnalysisApprovalMaterial.fromSatisfaction
      { analysisId := ""
        optionId := option.optionId
        authorizationId := authorization.authorizationId
        personaId := authorization.personaId
        role := authorization.role
        satisfied := true
        target := target
        authorizationConditions := authorization.conditions })
  else none

/-- The approvals of an option. -/
def approvalEntries (case : CaseInstance) (corpus : CorpusScope)
    (authorizations : List StandingAuthorization) (option : ResponseOption) :
    List AnalysisApprovalMaterial :=
  (sortedSet id (option.prerequisiteRoles.filter fun role => role ≠ "response_approver")).flatMap
    fun role => authorizations.filterMap (approvalEntry option (approvalTarget case corpus option) role)

theorem map_evaluateApprovalSatisfaction (option : ResponseOption) (analysisId : String)
    (authorizations : List StandingAuthorization) (target : ApprovalTarget) :
    (evaluateApprovalSatisfaction option analysisId authorizations target).map
        AnalysisApprovalMaterial.fromSatisfaction =
      (sortedSet id (option.prerequisiteRoles.filter fun role =>
        role ≠ "response_approver")).flatMap
        fun role => authorizations.filterMap (approvalEntry option target role) := by
  rw [evaluateApprovalSatisfaction, List.map_flatMap]
  refine List.flatMap_congr fun role _ => ?_
  rw [List.map_filterMap, List.filterMap_filter]
  refine List.filterMap_congr fun authorization _ => ?_
  unfold approvalEntry
  by_cases h : authorization.role = role ∧
      (∀ persona ∈ approvalPersonas role, authorization.personaId = persona) ∧
      authorization.Permits option target
  · rw [if_pos (decide_eq_true h), if_pos h, ApprovalSatisfaction.fromAuthorization,
      if_pos h.2.2]
    rfl
  · rw [if_neg (by rw [decide_eq_true_eq]; exact h), if_neg h]

theorem canonical_canonical (conditions : AuthorizationConditions) :
    conditions.canonical.canonical = conditions.canonical := by
  simp only [AuthorizationConditions.canonical,
    sortedSet_congr optionKind_value_injective fun _ => mem_sortedSet,
    sortedSet_congr corpusScope_value_injective fun _ => mem_sortedSet,
    sortedSet_congr Function.injective_id fun _ => mem_sortedSet,
    sortedSet_congr casePurpose_value_injective fun _ => mem_sortedSet,
    sortedSet_congr sideEffect_value_injective fun _ => mem_sortedSet]

/-- What an authorization permits does not depend on how its conditions are listed. -/
theorem permits_canonical {authorization : StandingAuthorization} {option : ResponseOption}
    {target : ApprovalTarget} :
    authorization.canonical.Permits option target ↔ authorization.Permits option target := by
  unfold StandingAuthorization.Permits StandingAuthorization.canonical
    AuthorizationConditions.canonical
  simp only [mem_sortedSet]

theorem approvalEntry_canonical (option : ResponseOption) (target : ApprovalTarget) (role : String)
    (authorization : StandingAuthorization) :
    approvalEntry option target role authorization.canonical =
      approvalEntry option target role authorization := by
  unfold approvalEntry
  simp only [permits_canonical]
  refine if_congr Iff.rfl ?_ rfl
  simp only [AnalysisApprovalMaterial.fromSatisfaction, StandingAuthorization.canonical,
    canonical_canonical]

theorem approvalEntries_canonical (case : CaseInstance) (corpus : CorpusScope)
    (authorizations : List StandingAuthorization) :
    approvalEntries case corpus (authorizations.map StandingAuthorization.canonical) =
      approvalEntries case corpus authorizations := by
  funext option
  unfold approvalEntries
  simp only [List.filterMap_map, Function.comp_def, approvalEntry_canonical]

theorem approvalEntries_settled (case : CaseInstance) (corpus : CorpusScope)
    (authorizations : List StandingAuthorization) (option : ResponseOption) :
    approvalEntries case corpus authorizations option.settled =
      approvalEntries case corpus authorizations option := rfl

/-- The approvals of an analysis, as the material records them but for the order. -/
theorem map_satisfactionsOf (command : AnalyzeCaseCommand) (options : List ResponseOption) :
    (satisfactionsOf command options).map AnalysisApprovalMaterial.fromSatisfaction =
      (options.map ResponseOption.settled).flatMap
        (approvalEntries command.case command.corpus
          (command.canonicalAuthorizations.map StandingAuthorization.canonical)) := by
  rw [satisfactionsOf, evaluateApprovalSatisfactions, List.map_flatMap, approvalEntries_canonical,
    List.flatMap_map]
  exact List.flatMap_congr fun option _ => map_evaluateApprovalSatisfaction ..

/-- Which options have a quality approval can be told from the material. -/
theorem qualitySatisfied_congr {satisfactions satisfactions' : List ApprovalSatisfaction}
    (h : satisfactions'.map AnalysisApprovalMaterial.fromSatisfaction =
      satisfactions.map AnalysisApprovalMaterial.fromSatisfaction) :
    withQualityApproval satisfactions' = withQualityApproval satisfactions := by
  have hentry : ∀ (l : List ApprovalSatisfaction) (option : ResponseOption),
      QualitySatisfied l option ↔
        ∃ entry ∈ l.map AnalysisApprovalMaterial.fromSatisfaction,
          entry.role = "quality_approver" ∧ entry.satisfied = true ∧
            entry.optionId = option.optionId := by
    intro l option
    simp only [QualitySatisfied, List.mem_map, exists_exists_and_eq_and]
    exact Iff.rfl
  funext option
  unfold withQualityApproval
  refine if_congr (and_congr_right fun _ => and_congr_right fun _ => not_congr ?_) rfl rfl
  rw [hentry, hentry, h]

/-! ### The ranking -/

theorem comparatorValue_settled (option : ResponseOption) (comparator : Comparator) :
    numericValue option.settled comparator = numericValue option comparator := rfl

theorem leastId_settled (options : List ResponseOption) :
    leastId (options.map ResponseOption.settled) =
      (leastId options).map ResponseOption.settled := by
  cases options with
  | nil => rfl
  | cons first rest =>
    simp only [leastId, List.map_cons, Except.map]
    refine congrArg _ ?_
    induction rest generalizing first with
    | nil => rfl
    | cons o rest ih =>
      rw [List.map_cons, List.foldl_cons, List.foldl_cons, ← ih]
      refine congrArg (fun best => List.foldl _ best (rest.map ResponseOption.settled)) ?_
      by_cases hlt : o.optionId < first.optionId
      · rw [if_pos hlt, if_pos]
        exact hlt
      · rw [if_neg hlt, if_neg]
        exact hlt

theorem map_optionId_settled (options : List ResponseOption) :
    (options.map ResponseOption.settled).map ResponseOption.optionId =
      options.map ResponseOption.optionId := by
  rw [List.map_map]
  rfl

theorem rankStage_settled (comparator : Comparator) (remaining : List ResponseOption) :
    rankStage comparator (remaining.map ResponseOption.settled) =
      (rankStage comparator remaining).map fun stage =>
        (stage.1, stage.2.map ResponseOption.settled) := by
  unfold rankStage
  split
  · rw [leastId_settled]
    cases leastId remaining with
    | error e => rfl
    | ok best =>
      refine congrArg Except.ok (Prod.ext ?_ rfl)
      simp only [rankingStage, List.map_map]
      rfl
  · have hvalues : ((remaining.map ResponseOption.settled).mapM fun o =>
        numericValue o comparator) = remaining.mapM fun o => numericValue o comparator := by
      rw [List.mapM_map]
      rfl
    rw [hvalues]
    cases remaining.mapM fun o => numericValue o comparator with
    | error e => rfl
    | ok values =>
      cases hbest : minimumOf values with
      | error e => simp only [hbest, Except.map, bind, Except.bind]
      | ok best =>
        cases hcutoff : decimalResult (decimalContext.add best comparator.threshold) with
        | error e => simp only [hbest, hcutoff, Except.map, bind, Except.bind]
        | ok cutoff =>
          simp only [hbest, hcutoff, Except.map, bind, Except.bind, pure, Except.pure,
            List.zip_map_left, List.filter_map, List.map_map]
          refine congrArg Except.ok (Prod.ext ?_ rfl)
          simp only [rankingStage, List.map_map]
          rfl

theorem rankStages_settled (comparators : List Comparator) (remaining : List ResponseOption) :
    rankStages comparators (remaining.map ResponseOption.settled) =
      (rankStages comparators remaining).map fun ranked =>
        (ranked.1, ranked.2.map ResponseOption.settled) := by
  induction comparators generalizing remaining with
  | nil => rfl
  | cons comparator rest ih =>
    unfold rankStages
    rw [rankStage_settled]
    cases rankStage comparator remaining with
    | error e => rfl
    | ok stage =>
      simp only [Except.map, bind, Except.bind, List.length_map]
      split
      · rfl
      · rw [ih]
        cases rankStages rest stage.2 with
        | error e => rfl
        | ok later => rfl

theorem eligibleOptions_settled (options : List ResponseOption) :
    eligibleOptions (options.map ResponseOption.settled) =
      (eligibleOptions options).map ResponseOption.settled := by
  have hfilter : ((options.map ResponseOption.settled).filter fun o =>
      o.activeMitigation && o.isFeasible) =
      (options.filter fun o => o.activeMitigation && o.isFeasible).map ResponseOption.settled := by
    rw [List.filter_map]
    rfl
  rw [eligibleOptions, hfilter]
  exact (map_sorted (f := ResponseOption.settled) ResponseOption.optionId ResponseOption.optionId
    (fun _ => rfl) _).symm

theorem sortedIds_settled (options : List ResponseOption) (p : ResponseOption → Bool)
    (hp : ∀ o : ResponseOption, p o.settled = p o) :
    sortedIds (options.map ResponseOption.settled) p = sortedIds options p := by
  have hcomp : p ∘ ResponseOption.settled = p := funext hp
  rw [sortedIds, sortedIds, List.filter_map, hcomp, map_optionId_settled]

/-- The ranking does not see the lineage of the options. -/
theorem rankOptions_settled (options : List ResponseOption) :
    rankOptions (options.map ResponseOption.settled) = rankOptions options := by
  unfold rankOptions
  have hids : ∀ p : ResponseOption → Bool, (∀ o, p o.settled = p o) →
      sortedIds (options.map ResponseOption.settled) p = sortedIds options p :=
    sortedIds_settled options
  rw [hids (fun o => !o.activeMitigation) fun _ => rfl,
    hids (fun o => o.activeMitigation && !o.isFeasible) fun _ => rfl]
  simp only [map_optionId_settled, eligibleOptions_settled, List.isEmpty_map, rankStages_settled]
  refine if_congr Iff.rfl rfl (if_congr Iff.rfl rfl ?_)
  cases rankStages comparators (eligibleOptions options) with
  | error e => rfl
  | ok ranked =>
    refine congrArg Except.ok ?_
    simp only [RankingResult.mk.injEq, List.head?_map, Option.map_map, true_and, and_true]
    rfl

/-! ### Equal materials -/

theorem fromOption_settled (option : ResponseOption) :
    AnalysisResponseOptionMaterial.fromOption option.settled =
      AnalysisResponseOptionMaterial.fromOption option := by
  simp only [AnalysisResponseOptionMaterial.fromOption, ResponseOption.settled,
    sortedSet_congr Function.injective_id fun _ => mem_sortedSet]

theorem settled_withQualityApproval (satisfactions : List ApprovalSatisfaction)
    (option : ResponseOption) :
    (withQualityApproval satisfactions option).settled =
      withQualityApproval satisfactions option.settled := by
  unfold withQualityApproval
  split
  · next h =>
    rw [if_pos]
    · rfl
    · exact h
  · next h =>
    rw [if_neg]
    exact h

theorem canonicalOptions_settled (options : List ResponseOption) :
    canonicalOptions (options.map ResponseOption.settled) =
      (canonicalOptions options).map ResponseOption.settled :=
  (map_sorted (f := ResponseOption.settled) ResponseOption.optionId ResponseOption.optionId
    (fun _ => rfl) options).symm

/-- The options of an analysis, up to the order of their lineage. -/
theorem map_settled_finalOptions (command : AnalyzeCaseCommand) (validation : EvidenceValidation)
    (bases : List ResponseOption) :
    (finalOptions command validation bases).map ResponseOption.settled =
      ((canonicalOptions (bases.map ResponseOption.settled)).map
        (withEvidenceCodes validation)).map (withQualityApproval
          (satisfactionsOf command (applyEvidenceFeasibility (canonicalOptions bases)
            validation))) := by
  rw [canonicalOptions_settled]
  simp only [finalOptions, applyQualityApprovalFeasibility, applyEvidenceFeasibility,
    List.map_map]
  refine List.map_congr_left fun base _ => ?_
  simp only [Function.comp_apply, settled_withQualityApproval]
  rfl

/-- The key of an approval in the material. -/
def approvalKey (entry : AnalysisApprovalMaterial) : String ×ₗ String ×ₗ String ×ₗ String :=
  toLex (entry.optionId, toLex (entry.role, toLex (entry.personaId, entry.authorizationId)))

namespace AnalyzeCaseCommand.Permutes

variable {command command' : AnalyzeCaseCommand}

theorem canonicalRequiredScope_eq (h : command.Permutes command') :
    command'.canonicalRequiredScope = command.canonicalRequiredScope :=
  sortedSet_perm authorityScope_value_injective h.requiredAuthorityScope

theorem canonicalConflicts_eq (h : command.Permutes command')
    (hids : (command.conflicts.map EvidenceConflict.conflictId).Nodup) :
    command'.canonicalConflicts.map AnalysisConflictMaterial.fromConflict =
      command.canonicalConflicts.map AnalysisConflictMaterial.fromConflict :=
  map_eq_of_perm AnalysisConflictMaterial.conflictId (fun _ => rfl)
    (h.conflicts.map_perm fun _ _ hc => hc.fromConflict_eq) hids

theorem canonicalResolutions_eq (h : command.Permutes command')
    (hids : (command.conflictResolutions.map ConflictResolution.conflictId).Nodup) :
    command'.canonicalResolutions.map AnalysisConflictResolutionMaterial.fromResolution =
      command.canonicalResolutions.map AnalysisConflictResolutionMaterial.fromResolution :=
  map_eq_of_perm AnalysisConflictResolutionMaterial.conflictId (fun _ => rfl)
    (h.conflictResolutions.map_perm fun _ _ hr => hr.fromResolution_eq) hids

theorem canonicalAuthorizations_eq (h : command.Permutes command')
    (hids : (command.standingAuthorizations.map StandingAuthorization.authorizationId).Nodup) :
    command'.canonicalAuthorizations.map StandingAuthorization.canonical =
      command.canonicalAuthorizations.map StandingAuthorization.canonical := by
  have hperm := h.standingAuthorizations.map_perm fun _ _ ha => ha.canonical_eq
  refine map_eq_of_perm StandingAuthorization.authorizationId (fun _ => rfl) ?_ ?_
  · unfold standingAuthorizationsFor
    rw [h.case]
    split
    · exact hperm
    · have hfilter := hperm.filter fun item => decide (item.role ≠ "finance_approver")
      rw [List.filter_map, List.filter_map] at hfilter
      exact hfilter
  · unfold standingAuthorizationsFor
    split
    · exact hids
    · exact hids.sublist (List.filter_sublist.map _)

/-- The conflicts that are open have the same ids, so there are some in both or in neither. -/
theorem open_iff (h : command.Permutes command') :
    (command'.canonicalConflicts.filter fun c => c.IsOpen command'.canonicalResolutions) = [] ↔
      (command.canonicalConflicts.filter fun c => c.IsOpen command.canonicalResolutions) = [] := by
  have hopen : ∀ c : AnalyzeCaseCommand,
      ((c.canonicalConflicts.filter fun conflict => conflict.IsOpen c.canonicalResolutions) = [] ↔
        ∀ entry ∈ c.conflicts.map fun conflict =>
            (conflict.conflictId, conflict.feasibilityRelevant),
          entry.2 = true → entry.1 ∈ c.conflictResolutions.map ConflictResolution.conflictId) := by
    intro c
    simp only [List.filter_eq_nil_iff, decide_eq_true_eq, isOpen_canonical, mem_canonicalConflicts]
    unfold EvidenceConflict.IsOpen
    simp only [List.mem_map, not_and, not_forall, exists_prop, not_not, ne_eq]
    exact ⟨fun hall entry ⟨a, ha, hentry⟩ => hentry ▸ hall a ha,
      fun hall a ha => hall _ ⟨a, ha, rfl⟩⟩
  have hconflicts := h.conflicts.map_perm
    (f := fun conflict => (conflict.conflictId, conflict.feasibilityRelevant))
    fun _ _ hc => by rw [← hc.same]
  have hresolutions := h.conflictResolutions.map_perm (f := ConflictResolution.conflictId)
    fun _ _ hr => by rw [← hr.same]
  rw [hopen, hopen]
  simp only [hconflicts.mem_iff, hresolutions.mem_iff]

/-- The evidence as the material records it, where the validations are the same. -/
theorem evidenceMaterial_eq (h : command.Permutes command')
    (hids : (command.evidenceItems.map EvidenceItem.evidenceId).Nodup)
    (validation : EvidenceValidation) :
    evidenceMaterial (sortedEvidence command'.evidenceItems) validation =
      evidenceMaterial (sortedEvidence command.evidenceItems) validation := by
  let entry := fun item : EvidenceItem =>
    (item.evidenceId, AnalysisEvidenceMaterial.fromEvidence item)
  have hentries : (sortedEvidence command'.evidenceItems).map entry =
      (sortedEvidence command.evidenceItems).map entry := by
    refine map_eq_of_perm Prod.fst (fun _ => rfl) ?_ hids
    refine h.evidenceItems.map_perm fun item item' hitem => Prod.ext ?_ hitem.fromEvidence_eq
    rw [← hitem.same]
  have hmaterial : ∀ items : List EvidenceItem, evidenceMaterial items validation =
      (items.map entry).filterMap fun e =>
        (validationFor validation.itemResults e.1).map e.2 := by
    intro items
    rw [List.filterMap_map]
    rfl
  rw [hmaterial, hmaterial, hentries]

end AnalyzeCaseCommand.Permutes

section

variable {env : Env} {unicode : Text.Unicode} {isIpv6 : String → Bool}
  {command command' : AnalyzeCaseCommand} {bases bases' : List ResponseOption}
  {analysis analysis' : AnalysisVersion}

namespace AnalyzedFrom

/-- Items that are validated alike make the same validation. -/
theorem evidenceValidation_eq (h : AnalyzedFrom env unicode isIpv6 command bases analysis)
    (h' : AnalyzedFrom env unicode isIpv6 command' bases' analysis')
    (hpermutes : command.Permutes command')
    (hresults : analysis'.evidenceValidation.itemResults =
      analysis.evidenceValidation.itemResults) :
    analysis'.evidenceValidation = analysis.evidenceValidation := by
  rw [h.itemResults_eq, h'.itemResults_eq] at hresults
  rw [h'.evidence.eq, h.evidence.eq, hresults, hpermutes.canonicalRequiredScope_eq]
  unfold evidenceValidationOf
  simp only [ne_eq, hpermutes.open_iff]

/-- The material is the same. -/
theorem material_eq (h : AnalyzedFrom env unicode isIpv6 command bases analysis)
    (h' : AnalyzedFrom env unicode isIpv6 command' bases' analysis')
    (hpermutes : command.Permutes command')
    (hresults : analysis'.evidenceValidation.itemResults =
      analysis.evidenceValidation.itemResults) :
    analysis'.material = analysis.material := by
  have hsnapshot : analysis'.material.operationalSnapshotJson =
      analysis.material.operationalSnapshotJson := by
    have heq := h'.snapshot
    rw [hpermutes.operationalSnapshot.canonical_eq, h.snapshot] at heq
    exact (Except.ok.inj heq).symm
  have hvalidation := h.evidenceValidation_eq h' hpermutes hresults
  have hbases := hpermutes.operationalSnapshot.evaluate (orderIds_of_canonical h.snapshot)
    h.evaluated h'.evaluated
  have hauthorizations := hpermutes.canonicalAuthorizations_eq h.checked.authorizationIds
  have hadjusted : ∀ l : List ResponseOption,
      (applyEvidenceFeasibility (canonicalOptions l) analysis.evidenceValidation).map
        ResponseOption.settled =
      (canonicalOptions (l.map ResponseOption.settled)).map
        (withEvidenceCodes analysis.evidenceValidation) := by
    intro l
    rw [canonicalOptions_settled, applyEvidenceFeasibility, List.map_map, List.map_map]
    rfl
  -- approvals first, since the options depend on them
  have hsatisfactions : analysis'.approvalSatisfactions.map
        AnalysisApprovalMaterial.fromSatisfaction =
      analysis.approvalSatisfactions.map AnalysisApprovalMaterial.fromSatisfaction := by
    rw [h'.satisfactions, h.satisfactions, map_satisfactionsOf, map_satisfactionsOf, hvalidation,
      hadjusted, hadjusted, hbases, hauthorizations, hpermutes.case, hpermutes.corpus]
  have hoptions : analysis'.responseOptions.map ResponseOption.settled =
      analysis.responseOptions.map ResponseOption.settled := by
    rw [h'.options, h.options, map_settled_finalOptions, map_settled_finalOptions, hvalidation,
      hbases]
    refine congrArg (fun f => List.map f _) ?_
    refine qualitySatisfied_congr ?_
    rw [← hvalidation, ← h'.satisfactions, hvalidation, ← h.satisfactions]
    exact hsatisfactions
  have hranking : analysis'.ranking = analysis.ranking := by
    have heq := h'.ranked
    rw [← rankOptions_settled, hoptions, rankOptions_settled, h.ranked] at heq
    exact (Except.ok.inj heq).symm
  have hmaterials : analysis'.responseOptions.map AnalysisResponseOptionMaterial.fromOption =
      analysis.responseOptions.map AnalysisResponseOptionMaterial.fromOption := by
    have hmap : ∀ l : List ResponseOption, l.map AnalysisResponseOptionMaterial.fromOption =
        (l.map ResponseOption.settled).map AnalysisResponseOptionMaterial.fromOption := by
      intro l
      rw [List.map_map]
      exact List.map_congr_left fun o _ => (fromOption_settled o).symm
    rw [hmap, hmap analysis.responseOptions, hoptions]
  have happrovals : ∀ l : List ApprovalSatisfaction,
      (l.insertionSort fun a b => satisfactionKey a ≤ satisfactionKey b).map
        AnalysisApprovalMaterial.fromSatisfaction =
      (l.map AnalysisApprovalMaterial.fromSatisfaction).insertionSort
        fun a b => approvalKey a ≤ approvalKey b :=
    map_sorted satisfactionKey approvalKey fun _ => rfl
  rw [h'.material, h.material, hsnapshot, hvalidation, hranking]
  unfold analysisMaterial
  simp only [happrovals, hsatisfactions, hmaterials, hauthorizations,
    hpermutes.canonicalRequiredScope_eq, hpermutes.canonicalConflicts_eq h.checked.conflictIds,
    hpermutes.canonicalResolutions_eq h.checked.resolutionIds,
    hpermutes.evidenceMaterial_eq h.checked.evidenceIds, hpermutes.case, hpermutes.corpus,
    hpermutes.calculationVersion]

end AnalyzedFrom

/-- Two commands that list the same records in other orders, under another id and at other
times, with other excerpts and citations where there are some: if every item is validated
alike, the materials are equal, and with them the hashes and the rankings. -/
theorem material_canonical (env : Env) (unicode : Text.Unicode) (isIpv6 : String → Bool)
    (command command' : AnalyzeCaseCommand) (analysis analysis' : AnalysisVersion)
    (h : analyzeCase env unicode isIpv6 command = .ok analysis)
    (h' : analyzeCase env unicode isIpv6 command' = .ok analysis')
    (hpermutes : command.Permutes command')
    (hresults : analysis'.evidenceValidation.itemResults =
      analysis.evidenceValidation.itemResults) :
    analysis'.material = analysis.material ∧ analysis'.materialHash = analysis.materialHash ∧
      analysis'.ranking = analysis.ranking ∧
      analysis'.ranking.recommendedOptionId = analysis.ranking.recommendedOptionId := by
  obtain ⟨bases, hanalyzed⟩ := analyzeCase_spec h
  obtain ⟨bases', hanalyzed'⟩ := analyzeCase_spec h'
  have hmaterial := hanalyzed.material_eq hanalyzed' hpermutes hresults
  have hranking : analysis'.ranking = analysis.ranking := by
    have heq : analysis'.material.ranking = analysis.material.ranking := by rw [hmaterial]
    rw [hanalyzed'.material, hanalyzed.material] at heq
    exact heq
  refine ⟨hmaterial, ?_, hranking, by rw [hranking]⟩
  rw [hanalyzed'.hash, hanalyzed.hash, hmaterial]

end

/-! ### The demonstration case, listed otherwise -/

theorem exists_ok_ok {α ε : Type} {x y : Except ε α} {p : α → α → Bool}
    (h : (x.toOption.any fun a => y.toOption.any (p a)) = true) :
    ∃ a b, x = .ok a ∧ y = .ok b ∧ p a b = true := by
  cases x with
  | error e => cases h
  | ok a =>
    cases y with
    | error e => cases h
    | ok b => exact ⟨a, b, rfl, rfl, h⟩

/-- The demonstration case again: the other order, another id, a minute later. -/
def rl001Again : AnalyzeCaseCommand :=
  { rl001Command with
    analysisId := "RL-ANALYSIS-2"
    evidenceItems := ["RL-ALPHA-OPTIONAL-3000", "RL-TRANSFER-DAL-CHI-1500"].map fun id =>
      { rl001Evidence id with
        retrievedAt := some (scenarioEffectiveTime + 60000001)
        retrievedForAnalysisId := "RL-ANALYSIS-2" }
    analysisStartedAt := scenarioEffectiveTime + 60000000
    createdAt := scenarioEffectiveTime + 60000002 }

theorem rl001Again_permutes : rl001Command.Permutes rl001Again where
  case := rfl
  corpus := rfl
  calculationVersion := rfl
  operationalSnapshot := ⟨.refl _, .refl _, .refl _, rfl⟩
  evidenceItems := by
    refine ⟨rl001Again.evidenceItems.reverse, ?_, (List.reverse_perm _).symm⟩
    refine .cons ⟨.refl _, Iff.rfl, rfl, rfl⟩ (.cons ⟨.refl _, Iff.rfl, rfl, rfl⟩ .nil)
  conflicts := ⟨[], .nil, .refl _⟩
  conflictResolutions := ⟨[], .nil, .refl _⟩
  standingAuthorizations := ⟨[], .nil, .refl _⟩
  requiredAuthorityScope := .refl _

theorem material_canonical_sample :
    ∃ analysis analysis',
      analyzeCase sampleEnv asciiTexts (fun _ => false) rl001Command = .ok analysis ∧
      analyzeCase sampleEnv asciiTexts (fun _ => false) rl001Again = .ok analysis' ∧
      analysis'.material = analysis.material := by
  obtain ⟨analysis, analysis', h, h', hresults⟩ := exists_ok_ok
    (x := analyzeCase sampleEnv asciiTexts (fun _ => false) rl001Command)
    (y := analyzeCase sampleEnv asciiTexts (fun _ => false) rl001Again)
    (p := fun a b => decide (b.evidenceValidation.itemResults = a.evidenceValidation.itemResults))
    (by decide +kernel)
  exact ⟨analysis, analysis', h, h', (material_canonical sampleEnv asciiTexts (fun _ => false)
    rl001Command rl001Again analysis analysis' h h' rl001Again_permutes
    (of_decide_eq_true hresults)).1⟩

/-- The demonstration case with texts for one fact. -/
def rl001Cited (excerpt citationUrl : Option String) : AnalyzeCaseCommand :=
  { rl001Command with
    evidenceItems :=
      [{ rl001Evidence "RL-TRANSFER-DAL-CHI-1500" with
          excerpt := excerpt
          citationUrl := citationUrl },
        rl001Evidence "RL-ALPHA-OPTIONAL-3000"] }

/-- A blank excerpt counts as no excerpt, and a blank citation as a citation: a material
tells the former from another text and the latter from none. -/
theorem blank_texts_change_material :
    ∃ cited blank uncited blankCitation,
      analyzeCase sampleEnv asciiTexts (fun _ => false) (rl001Cited (some "1,500 units.") none) =
        .ok cited ∧
      analyzeCase sampleEnv asciiTexts (fun _ => false) (rl001Cited (some " ") none) =
        .ok blank ∧
      blank.evidenceValidation.itemResults = cited.evidenceValidation.itemResults ∧
      blank.material ≠ cited.material ∧
      analyzeCase sampleEnv asciiTexts (fun _ => false) (rl001Cited none none) = .ok uncited ∧
      analyzeCase sampleEnv asciiTexts (fun _ => false) (rl001Cited none (some " ")) =
        .ok blankCitation ∧
      blankCitation.evidenceValidation.itemResults = uncited.evidenceValidation.itemResults ∧
      blankCitation.material ≠ uncited.material := by
  obtain ⟨cited, blank, hcited, hblank, hexcerpt⟩ := exists_ok_ok
    (x := analyzeCase sampleEnv asciiTexts (fun _ => false) (rl001Cited (some "1,500 units.") none))
    (y := analyzeCase sampleEnv asciiTexts (fun _ => false) (rl001Cited (some " ") none))
    (p := fun a b => decide (b.evidenceValidation.itemResults = a.evidenceValidation.itemResults ∧
      b.material ≠ a.material)) (by decide +kernel)
  obtain ⟨uncited, blankCitation, huncited, hblankCitation, hcitation⟩ := exists_ok_ok
    (x := analyzeCase sampleEnv asciiTexts (fun _ => false) (rl001Cited none none))
    (y := analyzeCase sampleEnv asciiTexts (fun _ => false) (rl001Cited none (some " ")))
    (p := fun a b => decide (b.evidenceValidation.itemResults = a.evidenceValidation.itemResults ∧
      b.material ≠ a.material)) (by decide +kernel)
  obtain ⟨hexcerpt, hmaterial⟩ := of_decide_eq_true hexcerpt
  obtain ⟨hcitation, hmaterial'⟩ := of_decide_eq_true hcitation
  exact ⟨cited, blank, uncited, blankCitation, hcited, hblank, hexcerpt, hmaterial, huncited,
    hblankCitation, hcitation, hmaterial'⟩

end SupplyResponse
