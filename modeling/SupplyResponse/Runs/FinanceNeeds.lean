/-
When the places that compare a cost with the Finance threshold agree.

* `requires_serialized` — the threshold on a cost that was rounded to cents;
* `responseCostOf`, `exists_base_cost` — the cost of an option and its roles;
* `submitTransaction_cost` — what a submission writes about the stored option;
* `OpensFinanceReview`, `DemandsReview` — the review of a submission, and the
  approval that a finalization asks for;
* `CostsAgree`, `financeNeeds_agree_iff` — the costs on which all of them agree.
-/
import SupplyResponse.Analysis.Executability
import SupplyResponse.Analysis.Safety
import SupplyResponse.Runs.Replays
import SupplyResponse.Services.Finalization

namespace SupplyResponse

open Transact Transact.Prog

/-! ### Costs -/

/-- Half a cent above the threshold is the first cost that rounds to more than it. -/
theorem requires_serialized {cost : Money} (h : 0 ≤ cost) :
    RequiresFinanceApproval cost.serialized ↔ 20000 + 1 / 200 ≤ cost := by
  unfold RequiresFinanceApproval premiumFreightApprovalThreshold
  have hfloor : (20000 : ℚ) < ⌊cost * 100 + 1 / 2⌋ / 100 ↔ 2000000 < ⌊cost * 100 + 1 / 2⌋ := by
    rw [lt_div_iff₀ (by norm_num)]
    norm_num
    exact_mod_cast Iff.rfl
  rw [Money.serialized, if_pos h, hfloor, ← Int.add_one_le_iff, Int.le_floor]
  constructor
  · intro hle
    push_cast at hle
    linarith
  · intro hle
    push_cast
    linarith

/-- The cost of the response of a kind: quantities times prices, as `Decimal` has them. -/
def responseCostOf (snapshot : OperationalSnapshot) : ResponseOptionKind → Option Money
  | .expedite => snapshot.alphaExpedite.bind fun alpha =>
    decimalContext.mul alpha.quantity alpha.incrementalCostPerUnit
  | .transfer =>
    decimalContext.mul snapshot.transfer.quantity snapshot.transfer.incrementalCostPerUnit
  | .combined => do
    let alpha ← snapshot.alphaExpedite
    let expedite ← decimalContext.mul alpha.quantity alpha.incrementalCostPerUnit
    let transfer ←
      decimalContext.mul snapshot.transfer.quantity snapshot.transfer.incrementalCostPerUnit
    decimalContext.add expedite transfer
  | _ => some 0

/-- The cost of the response is not one on which its option, the submission and the
finalization disagree: for a transfer those that need approval, for the others those that
are above the threshold but rounded to it. -/
def CostsAgree (snapshot : OperationalSnapshot) (kind : ResponseOptionKind) : Prop :=
  ∀ cost ∈ responseCostOf snapshot kind,
    (kind = .transfer → cost < 20000 + 1 / 200) ∧
      (kind ≠ .transfer → cost ≤ 20000 ∨ 20000 + 1 / 200 ≤ cost)

instance (snapshot : OperationalSnapshot) (kind : ResponseOptionKind) :
    Decidable (CostsAgree snapshot kind) :=
  inferInstanceAs (Decidable (∀ cost ∈ responseCostOf snapshot kind, _))

theorem interventionOutcome_cost {snapshot : OperationalSnapshot} {i : Intervention}
    {cost : Money} {outcome : PredictedOutcome} (hcost : decimalContext.IsResult cost)
    (h : calculateInterventionOutcome snapshot i.receipts i.transfers i.resequence cost =
      .ok outcome) : outcome.responseCost = cost := by
  obtain ⟨-, -, -, revenue, margin, plain, -, -, hplain, rfl⟩ := interventionOutcome_eq_ok.mp h
  have hsame : plainDecimal cost = .ok cost := decimalResult_eq_ok.mpr hcost
  exact Except.ok.inj (hplain.symm.trans hsame)

theorem mem_optionRoles {financeRequired qualityRequired : Bool} :
    "finance_approver" ∈ optionRoles financeRequired qualityRequired ↔
      financeRequired = true := by
  cases financeRequired with
  | true => simp [optionRoles]
  | false => cases qualityRequired <;> simp [optionRoles]

/-- The prediction and the roles of an option that can be executed. -/
theorem exists_base_cost {snapshot : OperationalSnapshot} (hvalid : snapshot.Valid)
    {bases : List ResponseOption} (h : evaluateResponseOptions snapshot = .ok bases)
    {base : ResponseOption} (hbase : base ∈ bases) (hexecutable : base.executable = true) :
    ∃ cost, 0 ≤ cost ∧ responseCostOf snapshot base.optionKind = some cost ∧
      base.predicted.map PredictedOutcome.responseCost = some cost ∧
      ("finance_approver" ∈ base.prerequisiteRoles ↔
        base.optionKind ≠ .transfer ∧ RequiresFinanceApproval cost) := by
  obtain ⟨outcomes, houtcomes, rfl⟩ := evaluateResponseOptions_eq_ok.mp h
  obtain ⟨expedite, transfer, combined, he, ht, hc, h₁, h₂, h₃, h₄, h₅⟩ :=
    optionOutcomes_eq_ok.mp houtcomes
  obtain ⟨henonneg, heresult⟩ := expediteCost_isResult hvalid he
  obtain ⟨htnonneg, htresult⟩ := transferCost_isResult hvalid ht
  have hsum : 0 ≤ expedite + transfer := add_nonneg henonneg htnonneg
  have hcresult := decimalContext.isResult_of_fix hsum hc
  have hzero : ¬ RequiresFinanceApproval 0 := by decide +kernel
  have hexpedite : ∀ alpha, snapshot.alphaExpedite = some alpha →
      decimalContext.mul alpha.quantity alpha.incrementalCostPerUnit = some expedite := by
    intro alpha halpha
    simpa only [expediteCost, halpha, decimalResult_eq_ok] using he
  rw [transferCost, decimalResult_eq_ok] at ht
  simp only [optionsOf, List.mem_cons, List.not_mem_nil, or_false] at hbase
  rcases hbase with rfl | rfl | rfl | rfl | rfl | rfl
  · cases hexecutable
  · obtain ⟨alpha, halpha⟩ := Option.isSome_iff_exists.mp hexecutable
    have hcost := interventionOutcome_cost (i := .expedite snapshot) heresult h₂
    refine ⟨expedite, henonneg, ?_, congrArg some hcost, ?_⟩
    · simp [responseCostOf, expediteOption, halpha, hexpedite alpha halpha]
    · simp [expediteOption, mem_optionRoles, hcost]
  · have hcost := interventionOutcome_cost (i := .transfer snapshot) htresult h₃
    refine ⟨transfer, htnonneg, ht, congrArg some hcost, ?_⟩
    simp [transferOption, mem_optionRoles]
  · have hcost := interventionOutcome_cost (i := .resequenced) decimalContext.isResult_zero h₄
    refine ⟨0, le_rfl, rfl, congrArg some hcost, ?_⟩
    simp [resequenceOption, mem_optionRoles, hzero]
  · have hcost := interventionOutcome_cost (i := .noMitigation) decimalContext.isResult_zero h₁
    simp only [betaOption, Bool.not_eq_true', decide_eq_false_iff_not, not_not] at hexecutable
    refine ⟨0, le_rfl, rfl, ?_, ?_⟩
    · simp [betaOption, hexecutable, hcost]
    · simp [betaOption, mem_optionRoles, hzero]
  · simp only [combinedOption, Bool.and_eq_true] at hexecutable
    obtain ⟨alpha, halpha⟩ := Option.isSome_iff_exists.mp hexecutable.1.1
    have hcost := interventionOutcome_cost (i := .combined snapshot) hcresult h₅
    refine ⟨combined, decimalContext.fix_nonneg hsum hc, ?_, congrArg some hcost, ?_⟩
    · simp [responseCostOf, combinedOption, halpha, hexpedite alpha halpha, ht, hc]
    · simp [combinedOption, mem_optionRoles, hcost]

/-! ### Submissions -/

variable {env : Env}

theorem submissionResult_read {selection : ProposalSelection} {s s' : Store}
    {result : SubmissionResult} (h : (submissionResult env selection).Returns s result s') :
    result.selection = selection ∧ ∀ reviewId ∈ selection.financeReviewId,
      ∃ row, s.reviews.get? (.review reviewId 1) = some row ∧ result.review = some row.review := by
  unfold submissionResult at h
  split at h
  · next hnone =>
    obtain ⟨rfl, -⟩ := returns_done.mp h
    refine ⟨rfl, fun reviewId hid => ?_⟩
    rw [hnone] at hid
    cases hid
  · next reviewId hsome =>
    obtain ⟨pending, hget, h⟩ := (readOnly_getRevision env _ 1).returns_bind.mp h
    obtain ⟨-, row, hrow, rfl⟩ := returns_getRevision env hget
    obtain ⟨rfl, -⟩ := returns_done.mp h
    refine ⟨rfl, fun other hid => ?_⟩
    obtain rfl := Option.some.inj (hsome.symm.trans hid)
    exact ⟨row, hrow, rfl⟩

/-- The selection of a submission carries the cost of the option that was proposed. -/
theorem publishProposal_cost {command : SubmitProposalCommand} {actor : IdentitySnapshot}
    {key fingerprint : String} {case : CaseInstance} {analysis : AnalysisVersion}
    {option : ResponseOption} {cost : Money} {selectionUuid reviewUuid : String} {now : Instant}
    {s s' : Store} {result : SubmissionResult}
    (h : (publishProposal env command actor key fingerprint case analysis option cost
      selectionUuid reviewUuid now).Returns s result s') :
    result.selection.proposal.responseCost = cost := by
  rw [publishProposal, returns_orRaise_bind] at h
  obtain ⟨proposal, hproposal, h⟩ := h
  rw [returns_orRaise_bind] at h
  obtain ⟨selection, hselection, h⟩ := h
  obtain ⟨-, hsame, -, -⟩ := ProposalSelection.validate?_spec hselection
  obtain ⟨_, s₁, -, h⟩ := returns_bind.mp h
  rw [returns_orRaise_bind] at h
  obtain ⟨receipt, hreceipt, h⟩ := h
  obtain ⟨hsel, -, -, -⟩ := SelectionReceipt.validate?_spec hreceipt
  obtain ⟨published, s₂, hpublish, h⟩ := returns_bind.mp h
  obtain ⟨rfl, -⟩ := returns_publish env hpublish
  rw [(submissionResult_read h).1, hsel, hsame]
  unfold FinanceProposal.validate? at hproposal
  split at hproposal
  · obtain rfl := Option.some.inj hproposal
    rfl
  · cases hproposal

/-- The cost of a committed submission is that of the option in the stored analysis. -/
theorem submitTransaction_cost {command : SubmitProposalCommand} {actor : IdentitySnapshot}
    {selectionUuid reviewUuid : String} {clock : ClockReading} {s s' : Store}
    {result : SubmissionResult} {analysisId : String} {analysis : AnalysisVersion}
    (hid : command.expected.analysisId = some analysisId)
    (hstored : s.analyses.get? (.analysis analysisId) = some analysis)
    (h : (submitTransaction env command actor selectionUuid reviewUuid clock).Commits s result s') :
    ∃ option predicted, analysis.executableMitigation? command.optionId =
      some (option, predicted) ∧
      result.selection.proposal.responseCost = predicted.responseCost := by
  unfold Commits at h
  simp only [submitTransaction, requireAlex, returns_require_bind] at h
  obtain ⟨-, h⟩ := h
  obtain ⟨stored, -, h⟩ := (readOnly_getReceiptByKey env _).returns_bind.mp h
  rcases stored with _ | receipt
  · obtain ⟨st, -, h⟩ := (readOnly_getState env _).returns_bind.mp h
    obtain ⟨-, h⟩ := returns_require_bind.mp h
    obtain ⟨p, -, h⟩ := (readOnly_getProjection env _).returns_bind.mp h
    obtain ⟨-, h⟩ := returns_require_bind.mp h
    obtain ⟨id, hsome, h⟩ := returns_orRaise_bind.mp h
    obtain rfl := Option.some.inj (hsome.symm.trans hid)
    obtain ⟨found, hanalysis, h⟩ := (readOnly_getAnalysis env _).returns_bind.mp h
    obtain ⟨-, hget, -⟩ := returns_getAnalysis env hanalysis
    obtain rfl := Option.some.inj (hget.symm.trans hstored)
    obtain ⟨-, h⟩ := returns_require_bind.mp h
    obtain ⟨⟨option, predicted⟩, hoption, h⟩ := returns_orRaise_bind.mp h
    obtain ⟨-, h⟩ := returns_require_bind.mp h
    obtain ⟨now, -, h⟩ := returns_orRaise_bind.mp h
    obtain ⟨result', s₁, hpublish, h⟩ := returns_bind.mp h
    obtain ⟨heq, -⟩ := returns_done.mp h
    obtain rfl : result = result' := by injection heq
    exact ⟨option, predicted, hoption, publishProposal_cost hpublish⟩
  · obtain ⟨_, -, heq⟩ := returns_map.mp h
    cases heq

/-- The submission has opened the Finance review of its selection. -/
def OpensFinanceReview (s' : Store) (result : SubmissionResult) : Prop :=
  ∃ row ∈ s'.reviews, result.review = some row.review ∧ row.review.status = .pending ∧
    row.revision = 1 ∧ result.selection.financeReviewId = some row.review.reviewId

theorem opensFinanceReview_iff {command : SubmitProposalCommand} {actor : IdentitySnapshot}
    {selectionUuid reviewUuid : String} {clock : ClockReading} {s s' : Store}
    {result : SubmissionResult}
    (h : (submitTransaction env command actor selectionUuid reviewUuid clock).Commits s result s') :
    OpensFinanceReview s' result ↔
      RequiresFinanceApproval result.selection.proposal.responseCost := by
  rw [result.selection.valid.2.2.2]
  constructor
  · rintro ⟨row, -, -, -, -, hid⟩
    rw [hid]
    rfl
  · intro hsome
    obtain ⟨-, receipt, hsubmitted⟩ := submit_stored h
    obtain ⟨hselection, hreview⟩ := submissionResult_read hsubmitted.result
    obtain ⟨reviewId, hid⟩ := Option.isSome_iff_exists.mp hsome
    rw [hselection] at hid
    obtain ⟨row, hrow, hresult⟩ := hreview reviewId hid
    have hkey := (Table.get?_eq_some_iff.mp hrow).2
    simp only [keys_financeReviewRow, List.mem_cons, Key.review.injEq, reduceCtorEq,
      List.not_mem_nil, or_false] at hkey
    refine ⟨row, Table.mem_of_get? hrow, hresult, (hsubmitted.pending _ hresult).1, hkey.2.symm, ?_⟩
    rw [hselection, hid, hkey.1]

/-! ### Finalizations -/

variable (env) in
/-- A finalization on the selection goes through only with an approved review. -/
def DemandsReview (selection : ProposalSelection) : Prop :=
  ∀ (state : ProposalState) (s s' : Store) (evidence : ProposalApprovalEvidence),
    state.selection = some selection → (evidenceOf env state).Returns s evidence s' →
      ∃ review ∈ state.review, review.status = .approved

theorem requireAlex_isSome {actor : IdentitySnapshot} (h : env.actors.IsAlex actor) :
    actor.requireAlex.isSome = true := by
  obtain ⟨htenant, hobject, hshape⟩ := h
  rw [IdentitySnapshot.requireAlex, IdentitySnapshot.require, if_pos hshape, htenant, hobject]
  rfl

/-- Some token of the analysis points to the selection. -/
theorem exists_token {expected : ProposalToken} {analysisId : String}
    (hon : expected.analysisId = some analysisId) (selection : ProposalSelection) :
    ∃ token : ProposalToken, token.selectionId = some selection.selectionId := by
  obtain ⟨hanalysis, -, hhash, hboth, -⟩ := expected.valid
  refine ⟨⟨expected.generation, expected.analysisId, expected.analysisMaterialHash,
    some selection.selectionId, hanalysis, fun id hid => ?_, hhash, hboth, fun _ => ?_⟩, rfl⟩
  · exact Option.some.inj hid ▸ selection.valid.1
  · rw [hon]
    rfl

/-- Without a review, the selection alone is the evidence. -/
theorem demandsReview_iff {selection : ProposalSelection}
    (halex : env.actors.IsAlex selection.submittedBy) {token : ProposalToken}
    (htoken : token.selectionId = some selection.selectionId) :
    DemandsReview env selection ↔ RequiresFinanceApproval selection.proposal.responseCost := by
  constructor
  · intro hdemands
    by_contra hlow
    have hnone : selection.financeReviewId = none := by
      rw [selection.valid.2.2.2, Bool.not_eq_true, Option.isSome_eq_false_iff,
        Option.isNone_iff_eq_none] at hlow
      exact hlow
    have hconsistent : ProposalState.Consistent token none none (some selection) :=
      ⟨htoken, by rw [hnone]; exact ⟨rfl, rfl⟩⟩
    have hvalid : ProposalApprovalEvidence.Valid selection none none :=
      ⟨requireAlex_isSome halex, ⟨fun h => absurd h hlow, fun h => absurd h (by simp)⟩,
        fun _ => ⟨rfl, hnone⟩, fun review h => absurd h (Option.not_mem_none review)⟩
    have hreturns : (evidenceOf env ⟨token, some selection, none, none, hconsistent⟩).Returns
        Store.empty ⟨selection, none, none, hvalid⟩ Store.empty := by
      rw [evidenceOf, returns_orRaise_bind]
      refine ⟨selection, rfl, returns_require_bind.mpr ⟨halex, returns_ite.mpr (.inr ⟨hlow, ?_⟩)⟩⟩
      refine returns_orRaise.mpr ⟨?_, rfl⟩
      rw [ProposalApprovalEvidence.validate?, dif_pos hvalid]
    obtain ⟨review, hreview, -⟩ := hdemands _ _ _ _ rfl hreturns
    cases hreview
  · intro hhigh state s s' evidence hselection hreturns
    have hevidence := returns_evidenceOf env hreturns
    obtain rfl := Option.some.inj (hevidence.selection.symm.trans hselection)
    obtain ⟨review, -, -, hreview, -, hstatus, -, -⟩ := hevidence.high hhigh
    exact ⟨review, hreview, hstatus⟩

/-! ### Agreement -/

theorem distinctIds_of_rankOptions {options : List ResponseOption} {ranking : RankingResult}
    (h : rankOptions options = .ok ranking) : DistinctIds options := by
  by_contra hdup
  rw [DistinctIds] at hdup
  rw [rankOptions, if_pos hdup] at h
  cases h

/-- The stored option under the id of an option of the analysis is its serialized form. -/
theorem executableMitigation?_serialized {analysis : AnalysisVersion}
    (hids : DistinctIds analysis.responseOptions) {option found : ResponseOption}
    {predicted : PredictedOutcome} (hoption : option ∈ analysis.responseOptions)
    (h : analysis.serialized.executableMitigation? option.optionId = some (found, predicted)) :
    found = option.serialized ∧ option.executable = true ∧
      option.predicted.map PredictedOutcome.serialized = some predicted := by
  obtain ⟨stored, hstored, h⟩ := Option.bind_eq_some_iff.mp h
  obtain ⟨material, -, h⟩ := Option.bind_eq_some_iff.mp h
  obtain ⟨outcome, houtcome, h⟩ := Option.bind_eq_some_iff.mp h
  split at h
  · next hmitigates =>
    obtain ⟨rfl, rfl⟩ : stored = found ∧ outcome = predicted := by simpa using h
    have hmem : stored ∈ analysis.serialized.responseOptions := List.mem_of_find?_eq_some hstored
    obtain ⟨other, hother, rfl⟩ := List.mem_map.mp hmem
    have hid : other.optionId = option.optionId := by
      have hfound := List.find?_some
        (p := fun o : ResponseOption => decide (o.optionId = option.optionId)) hstored
      exact of_decide_eq_true hfound
    obtain rfl := hids.eq hother hoption hid
    exact ⟨rfl, hmitigates.2.1, houtcome⟩
  · cases h

/-- An option lists the Finance approver, its submission opens a review and the
finalization of the selection demands the approval, all or none of them, exactly when the
cost is one on which they agree. -/
theorem financeNeeds_agree_iff (env : Env) (unicode : Text.Unicode) (isIpv6 : String → Bool)
    (command : AnalyzeCaseCommand) (analysis : AnalysisVersion) (option : ResponseOption)
    (submission : SubmitProposalCommand) (actor : IdentitySnapshot)
    (selectionUuid reviewUuid : String) (clock : ClockReading) (s s' : Store)
    (result : SubmissionResult) (hvalid : command.operationalSnapshot.Valid)
    (hanalysis : analyzeCase env unicode isIpv6 command = .ok analysis)
    (hoption : option ∈ analysis.responseOptions)
    (hstored : s.analyses.get? (.analysis analysis.analysisId) = some analysis.serialized)
    (hon : submission.expected.analysisId = some analysis.analysisId)
    (hid : submission.optionId = option.optionId)
    (hcommits : (submitTransaction env submission actor selectionUuid reviewUuid clock).Commits s
      result s') :
    (("finance_approver" ∈ option.prerequisiteRoles ↔ OpensFinanceReview s' result) ∧
      (OpensFinanceReview s' result ↔ DemandsReview env result.selection)) ↔
        CostsAgree command.operationalSnapshot option.optionKind := by
  obtain ⟨bases, hfrom⟩ := analyzeCase_spec hanalysis
  obtain ⟨found, predicted, hfound, hcost⟩ := submitTransaction_cost hon hstored hcommits
  rw [hid] at hfound
  obtain ⟨-, hexecutable, hpredicted⟩ :=
    executableMitigation?_serialized (distinctIds_of_rankOptions hfrom.ranked) hoption hfound
  obtain ⟨base, hbase, rfl⟩ := hfrom.mem_responseOptions.mp hoption
  obtain ⟨cost, hnonneg, hresponse, hbaseCost, hroles⟩ := exists_base_cost hvalid hfrom.evaluated
    hbase ((hfrom.executable_iff hbase).mp hexecutable).executable
  -- the two passes leave the prediction and the roles of an option as they are
  have hrounded : predicted.responseCost = cost.serialized := by
    rw [withQualityApproval_predicted, withEvidenceCodes_predicted] at hpredicted
    obtain ⟨outcome, houtcome, rfl⟩ := Option.map_eq_some_iff.mp hpredicted
    rw [houtcome] at hbaseCost
    rw [← Option.some.inj hbaseCost]
    rfl
  obtain ⟨-, receipt, hsubmitted⟩ := submit_stored hcommits
  have halex : env.actors.IsAlex result.selection.submittedBy := by
    rw [(submissionResult_read hsubmitted.result).1]
    exact hsubmitted.alex
  obtain ⟨token, htoken⟩ := exists_token hon result.selection
  have hdemands := demandsReview_iff halex htoken
  rw [opensFinanceReview_iff hcommits, hdemands, hcost, hrounded, requires_serialized hnonneg,
    withQualityApproval_prerequisiteRoles, withEvidenceCodes_prerequisiteRoles, hroles,
    withQualityApproval_optionKind, withEvidenceCodes_optionKind]
  unfold CostsAgree RequiresFinanceApproval premiumFreightApprovalThreshold
  rw [hresponse]
  simp only [Option.mem_some_iff, forall_eq', and_true, iff_self]
  by_cases htransfer : base.optionKind = .transfer
  · simp only [htransfer, ne_eq, not_true_eq_false, false_and, false_iff, not_le, true_imp_iff,
      false_imp_iff, and_true]
  · simp only [htransfer, ne_eq, not_false_eq_true, true_and, false_imp_iff, true_imp_iff]
    constructor
    · intro hagree
      by_cases hhigh : 20000 < cost
      · exact .inr (hagree.mp hhigh)
      · exact .inl (not_lt.mp hhigh)
    · rintro (hlow | hhigh)
      · exact ⟨fun h => absurd h (not_lt.mpr hlow), fun h => by linarith⟩
      · exact ⟨fun _ => hhigh, fun h => by linarith⟩

/-! ### A dear transfer -/

/-- The demonstration snapshot with another price of the transfer. -/
def pricedSnapshot (price : Money) : OperationalSnapshot :=
  let snapshot := OperationalSnapshot.rl001 "RL-CASE-1" .fallback
  { snapshot with transfer := { snapshot.transfer with incrementalCostPerUnit := price } }

theorem pricedSnapshot_valid {price : Money} (h : 0 ≤ price) : (pricedSnapshot price).Valid := by
  have hvalid := OperationalSnapshot.rl001_valid "RL-CASE-1" .fallback
  exact ⟨hvalid.productionOrders, hvalid.customerOrders, hvalid.originalQuantity,
    hvalid.alphaExpedite, hvalid.transfer.quantity, h⟩

def pricedCommand (price : Money) : AnalyzeCaseCommand :=
  { rl001Command with operationalSnapshot := pricedSnapshot price }

/-- The store that holds the analysis. -/
def pricedStore (price : Money) (analysis : AnalysisVersion) : Store :=
  history (Transaction.program sampleEnv)
    [.createCase rl001Case (pricedSnapshot price), .saveAnalysis analysis none 0] Store.empty

/-- Alex submits an option of the analysis. -/
def proposeOption (optionId : String) (h : IsIdentifier optionId) : SubmitProposalCommand where
  caseId := "RL-CASE-1"
  optionId := optionId
  expected :=
    { generation := 1
      analysisId := some "RL-ANALYSIS-1"
      analysisMaterialHash := some (hexText 'a')
      selectionId := none
      valid := ⟨by decide, fun id hid => absurd hid (Option.not_mem_none id),
        fun _ hash => Option.some.inj hash ▸ isSha256_hexText (by decide), by simp, by simp⟩ }
  idempotencyKey := "submit"
  valid := ⟨by decide, h, by decide, rfl, rfl⟩

/-- The submission is accepted, on an option of the analysis that passes the check. -/
def proposalAccepted (price : Money) (command : SubmitProposalCommand)
    (check : ResponseOption → Bool) : Bool :=
  (analyzeCase sampleEnv asciiTexts (fun _ => false) (pricedCommand price)).toOption.any
    fun analysis =>
      decide (analysis.analysisId = "RL-ANALYSIS-1" ∧
        (pricedStore price analysis).analyses.get? (.analysis analysis.analysisId) =
          some analysis.serialized) &&
        (analysis.responseOptions.any fun option =>
          decide (option.optionId = command.optionId) && check option) &&
        (submitTransaction sampleEnv command sampleAlex "1" "1" (some 0)).checkCommitted
          (pricedStore price analysis) fun _ _ => true

theorem exists_of_proposalAccepted {price : Money} {command : SubmitProposalCommand}
    {check : ResponseOption → Bool} (h : proposalAccepted price command check = true) :
    ∃ analysis option result s',
      analyzeCase sampleEnv asciiTexts (fun _ => false) (pricedCommand price) = .ok analysis ∧
      analysis.analysisId = "RL-ANALYSIS-1" ∧ option ∈ analysis.responseOptions ∧
      (pricedStore price analysis).analyses.get? (.analysis analysis.analysisId) =
        some analysis.serialized ∧
      (submitTransaction sampleEnv command sampleAlex "1" "1" (some 0)).Commits
        (pricedStore price analysis) result s' ∧
      command.optionId = option.optionId ∧ check option = true := by
  obtain ⟨analysis, hanalysis, h⟩ := (Option.any_eq_true _ _).mp h
  simp only [Bool.and_eq_true, decide_eq_true_eq, List.any_eq_true] at h
  obtain ⟨⟨⟨hid, hstored⟩, option, hoption, hsame, hcheck⟩, h⟩ := h
  obtain ⟨result, s', hcommits, -⟩ := exists_of_checkCommitted h
  refine ⟨analysis, option, result, s', ?_, hid, hoption, hstored, hcommits, hsame.symm, hcheck⟩
  cases hresult : analyzeCase sampleEnv asciiTexts (fun _ => false) (pricedCommand price) with
  | error e =>
    rw [hresult] at hanalysis
    cases hanalysis
  | ok analysis' =>
    rw [hresult] at hanalysis
    exact congrArg _ (Option.some.inj hanalysis)

def proposeCombined : SubmitProposalCommand := proposeOption "RL-OPTION-COMBINED" (by decide)

def proposeTransfer : SubmitProposalCommand := proposeOption "RL-OPTION-TRANSFER" (by decide)

/-- The combined response of the demonstration costs 24750, and all agree on it. -/
theorem financeNeeds_agree_sample :
    ∃ analysis option result s',
      analyzeCase sampleEnv asciiTexts (fun _ => false) (pricedCommand (3 / 2)) = .ok analysis ∧
      option ∈ analysis.responseOptions ∧ option.optionKind = .combined ∧
      ("finance_approver" ∈ option.prerequisiteRoles ↔ OpensFinanceReview s' result) ∧
      (OpensFinanceReview s' result ↔ DemandsReview sampleEnv result.selection) := by
  have haccepted : proposalAccepted (3 / 2) proposeCombined
      (fun option => decide (option.optionKind = .combined)) = true := by decide +kernel
  obtain ⟨analysis, option, result, s', hanalysis, hid, hoption, hstored, hcommits, hsame, hkind⟩ :=
    exists_of_proposalAccepted haccepted
  have hkind := of_decide_eq_true hkind
  have hagree : CostsAgree (pricedSnapshot (3 / 2)) option.optionKind := by
    rw [hkind]
    decide +kernel
  exact ⟨analysis, option, result, s', hanalysis, hoption, hkind,
    (financeNeeds_agree_iff sampleEnv asciiTexts (fun _ => false) (pricedCommand (3 / 2)) analysis
      option proposeCombined sampleAlex "1" "1" (some 0) (pricedStore (3 / 2) analysis) s' result
      (pricedSnapshot_valid (by norm_num)) hanalysis hoption hstored (by rw [hid]; rfl) hsame
      hcommits).mpr hagree⟩

/-- A transfer for 22500 opens a Finance review, though its option lists no approver. -/
theorem dear_transfer_unlisted :
    ∃ analysis option result s',
      (pricedSnapshot 15).Valid ∧
      analyzeCase sampleEnv asciiTexts (fun _ => false) (pricedCommand 15) = .ok analysis ∧
      option ∈ analysis.responseOptions ∧
      (pricedStore 15 analysis).analyses.get? (.analysis analysis.analysisId) =
        some analysis.serialized ∧
      proposeTransfer.optionId = option.optionId ∧
      (submitTransaction sampleEnv proposeTransfer sampleAlex "1" "1" (some 0)).Commits
        (pricedStore 15 analysis) result s' ∧
      option.executable = true ∧ option.activeMitigation = true ∧
      OpensFinanceReview s' result ∧ "finance_approver" ∉ option.prerequisiteRoles := by
  have haccepted : proposalAccepted 15 proposeTransfer (fun option =>
      decide ("finance_approver" ∉ option.prerequisiteRoles ∧ option.executable = true ∧
        option.activeMitigation = true ∧ ∀ predicted ∈ option.predicted,
          RequiresFinanceApproval predicted.responseCost.serialized)) = true := by decide +kernel
  obtain ⟨analysis, option, result, s', hanalysis, hid, hoption, hstored, hcommits, hsame,
    hcheck⟩ := exists_of_proposalAccepted haccepted
  obtain ⟨hroles, hexecutable, hactive, hdear⟩ := of_decide_eq_true hcheck
  refine ⟨analysis, option, result, s', pricedSnapshot_valid (by norm_num), hanalysis, hoption,
    hstored, hsame, hcommits, hexecutable, hactive, ?_, hroles⟩
  obtain ⟨bases, hfrom⟩ := analyzeCase_spec hanalysis
  obtain ⟨found, predicted, hfound, hcost⟩ := submitTransaction_cost (by rw [hid]; rfl) hstored
    hcommits
  rw [hsame] at hfound
  obtain ⟨-, -, hpredicted⟩ :=
    executableMitigation?_serialized (distinctIds_of_rankOptions hfrom.ranked) hoption hfound
  obtain ⟨outcome, houtcome, rfl⟩ := Option.map_eq_some_iff.mp hpredicted
  rw [opensFinanceReview_iff hcommits, hcost]
  exact hdear outcome houtcome

end SupplyResponse
