/-
When the options of a snapshot can be evaluated, and the bounds of the outcomes.

* `OutcomeInBounds` — the loss is a percentage and what is at risk lies between
  nothing and the total over all orders;
* `AmountsPresent`, `AmountsInRange` — no unprotected order lacks its revenue or
  margin, and no sum or product leaves the range of `Decimal`;
* `evaluateResponseOptions_safe` — the evaluation under these conditions, and
  its error when an order has no component demand.
-/
import SupplyResponse.Analysis.Monotonicity

namespace SupplyResponse

variable {snapshot : OperationalSnapshot}

/-- The total of what is present, summed in the given order. -/
def totalOf (values : List (Option Money)) : Except AnalysisError Money :=
  sumMoney (values.filter Option.isSome)

theorem totalOf_eq_ok {values : List (Option Money)} {v : Money} :
    totalOf values = .ok v ↔ decimalContext.sumFrom 0 values.reduceOption = some v := by
  have hnone : none ∉ values.filter Option.isSome := by simp
  have hreduce : (values.filter Option.isSome).reduceOption = values.reduceOption := by
    rw [List.reduceOption, List.filterMap_filter]
    refine List.filterMap_congr fun value _ => ?_
    cases value with
    | none => rfl
    | some w => rfl
  rw [totalOf, sumMoney_eq_ok, hreduce]
  exact ⟨fun h => h.2, fun h => ⟨hnone, h⟩⟩

/-- Some of the values, all present, have a sum not above the total. -/
theorem sumMoney_of_totalOf {xs ys : List (Option Money)} (hsub : xs.Sublist ys) (hxs : none ∉ xs)
    (hys : ∀ value ∈ ys, NonnegIfPresent value) {w : Money} (hw : totalOf ys = .ok w) :
    ∃ v, sumMoney xs = .ok v ∧ v ≤ w := by
  obtain ⟨s, hs, hle⟩ := decimalContext.sumFrom_sublist (hsub.filterMap id)
    (nonneg_of_mem_reduceOption hys) le_rfl le_rfl decimalContext.isResult_zero
    (totalOf_eq_ok.mp hw)
  exact ⟨s, sumMoney_eq_ok.mpr ⟨hxs, hs⟩, hle⟩

/-! ### Bounds -/

/-- The outcome of an option of the given kind is within its bounds. -/
structure OutcomeInBounds (snapshot : OperationalSnapshot) (kind : ResponseOptionKind)
    (outcome : PredictedOutcome) : Prop where
  otif : 0 ≤ outcome.otifLossPercentage ∧ outcome.otifLossPercentage ≤ 100
  revenue_nonneg : 0 ≤ outcome.revenueAtRisk
  margin_nonneg : 0 ≤ outcome.marginAtRisk
  revenue_le : ∀ total,
    totalOf ((sequenceOf snapshot (interventionOf snapshot kind).resequence).map
      ProductionOrder.customerRevenue) = .ok total → outcome.revenueAtRisk ≤ total
  margin_le : ∀ total,
    totalOf ((sequenceOf snapshot (interventionOf snapshot kind).resequence).map
      ProductionOrder.customerMargin) = .ok total → outcome.marginAtRisk ≤ total

theorem sequenceOf_revenue_nonneg (hvalid : snapshot.Valid) (resequence : Bool) :
    ∀ value ∈ (sequenceOf snapshot resequence).map ProductionOrder.customerRevenue,
      NonnegIfPresent value := by
  intro value hvalue
  obtain ⟨o, ho, rfl⟩ := List.mem_map.mp hvalue
  exact (hvalid.productionOrders o ((sequenceOf_perm _ _).mem_iff.mp ho)).customerRevenue

theorem sequenceOf_margin_nonneg (hvalid : snapshot.Valid) (resequence : Bool) :
    ∀ value ∈ (sequenceOf snapshot resequence).map ProductionOrder.customerMargin,
      NonnegIfPresent value := by
  intro value hvalue
  obtain ⟨o, ho, rfl⟩ := List.mem_map.mp hvalue
  exact (hvalid.productionOrders o ((sequenceOf_perm _ _).mem_iff.mp ho)).customerMargin

theorem uncoveredBy_sublist_sequenceOf (i : Intervention) :
    (uncoveredBy snapshot i).Sublist (sequenceOf snapshot i.resequence) :=
  List.filter_sublist

theorem coveredBy_length_le (i : Intervention) :
    (coveredBy snapshot i).length ≤ snapshot.productionOrders.length :=
  (List.filter_sublist.length_le).trans (sequenceOf_perm snapshot i.resequence).length_eq.le

theorem outcomeInBounds (hvalid : snapshot.Valid) {options : List ResponseOption}
    (h : evaluateResponseOptions snapshot = .ok options) {option : ResponseOption}
    (hoption : option ∈ options) {outcome : PredictedOutcome}
    (houtcome : option.predicted = some outcome) :
    OutcomeInBounds snapshot option.optionKind outcome := by
  obtain ⟨cost, hcalc⟩ := predicted_of_kind h hoption houtcome
  set i := interventionOf snapshot option.optionKind
  obtain ⟨-, -, hne, revenue, margin, c, hrevenue, hmargin, -, rfl⟩ :=
    interventionOutcome_eq_ok.mp hcalc
  have hpos : (0 : ℤ) < snapshot.productionOrders.length := by
    exact_mod_cast List.length_pos_iff.mpr hne
  have hcovered : ((coveredBy snapshot i).length : ℤ) ≤ snapshot.productionOrders.length := by
    exact_mod_cast coveredBy_length_le i
  constructor
  · constructor
    · exact Int.ediv_nonneg (by omega) hpos.le
    · refine Int.ediv_le_of_le_mul hpos ?_
      have hnonneg : (0 : ℤ) ≤ (coveredBy snapshot i).length := Int.natCast_nonneg _
      omega
  · exact sumMoney_nonneg (customerRevenue_nonneg hvalid i) hrevenue
  · exact sumMoney_nonneg (customerMargin_nonneg hvalid i) hmargin
  · intro total htotal
    obtain ⟨v, hv, hle⟩ := sumMoney_of_totalOf ((uncoveredBy_sublist_sequenceOf i).map _)
      (sumMoney_eq_ok.mp hrevenue).1 (sequenceOf_revenue_nonneg hvalid i.resequence) htotal
    obtain rfl := Except.ok.inj (hv.symm.trans hrevenue)
    exact hle
  · intro total htotal
    obtain ⟨v, hv, hle⟩ := sumMoney_of_totalOf ((uncoveredBy_sublist_sequenceOf i).map _)
      (sumMoney_eq_ok.mp hmargin).1 (sequenceOf_margin_nonneg hvalid i.resequence) htotal
    obtain rfl := Except.ok.inj (hv.symm.trans hmargin)
    exact hle

/-! ### When the evaluation returns -/

/-- Every order that an intervention leaves unprotected has its revenue and margin. -/
def AmountsPresent (snapshot : OperationalSnapshot) : Prop :=
  ∀ i ∈ interventions snapshot, ∀ o ∈ uncoveredBy snapshot i,
    o.customerRevenue ≠ none ∧ o.customerMargin ≠ none

/-- The costs of the interventions are in the range of `Decimal`. -/
def CostsInRange (snapshot : OperationalSnapshot) : Prop :=
  ∃ expedite transfer combined, expediteCost snapshot = .ok expedite ∧
    transferCost snapshot = .ok transfer ∧ decimalContext.add expedite transfer = some combined

/-- So are the totals of revenue and margin, in both sequences. -/
def TotalsInRange (snapshot : OperationalSnapshot) : Prop :=
  ∀ resequence,
    (∃ total, totalOf ((sequenceOf snapshot resequence).map ProductionOrder.customerRevenue) =
      .ok total) ∧
    ∃ total, totalOf ((sequenceOf snapshot resequence).map ProductionOrder.customerMargin) =
      .ok total

theorem expediteCost_isResult (hvalid : snapshot.Valid) {cost : Money}
    (h : expediteCost snapshot = .ok cost) : 0 ≤ cost ∧ decimalContext.IsResult cost := by
  rw [expediteCost] at h
  cases halpha : snapshot.alphaExpedite with
  | none =>
    simp only [halpha, Except.ok.injEq] at h
    exact h ▸ ⟨le_rfl, decimalContext.isResult_zero⟩
  | some alpha =>
    simp only [halpha, decimalResult_eq_ok] at h
    have hunit := (hvalid.alphaExpedite alpha halpha).incrementalCostPerUnit
    have hnonneg : (0 : ℚ) ≤ alpha.quantity * alpha.incrementalCostPerUnit :=
      mul_nonneg (Nat.cast_nonneg _) hunit
    exact ⟨decimalContext.fix_nonneg hnonneg h, decimalContext.isResult_of_fix hnonneg h⟩

theorem transferCost_isResult (hvalid : snapshot.Valid) {cost : Money}
    (h : transferCost snapshot = .ok cost) : 0 ≤ cost ∧ decimalContext.IsResult cost := by
  rw [transferCost, decimalResult_eq_ok] at h
  have hnonneg : (0 : ℚ) ≤ snapshot.transfer.quantity * snapshot.transfer.incrementalCostPerUnit :=
    mul_nonneg (Nat.cast_nonneg _) hvalid.transfer.incrementalCostPerUnit
  exact ⟨decimalContext.fix_nonneg hnonneg h, decimalContext.isResult_of_fix hnonneg h⟩

/-- The outcome of each intervention can be computed. -/
theorem exists_outcome (hvalid : snapshot.Valid) (hne : snapshot.productionOrders ≠ [])
    (hdemand : DemandsKnown snapshot.productionOrders)
    (hpriority : PrioritiesComparable snapshot.productionOrders) (hpresent : AmountsPresent snapshot)
    (hrange : TotalsInRange snapshot) {i : Intervention} (hi : i ∈ interventions snapshot)
    {cost : Money} (hcost : decimalContext.IsResult cost) :
    ∃ outcome,
      calculateInterventionOutcome snapshot i.receipts i.transfers i.resequence cost =
        .ok outcome := by
  obtain ⟨⟨revenueTotal, hrevenue⟩, marginTotal, hmargin⟩ := hrange i.resequence
  have hrevenueNone : none ∉ (uncoveredBy snapshot i).map ProductionOrder.customerRevenue := by
    intro hmem
    obtain ⟨o, ho, hnone⟩ := List.mem_map.mp hmem
    exact (hpresent i hi o ho).1 hnone
  have hmarginNone : none ∉ (uncoveredBy snapshot i).map ProductionOrder.customerMargin := by
    intro hmem
    obtain ⟨o, ho, hnone⟩ := List.mem_map.mp hmem
    exact (hpresent i hi o ho).2 hnone
  obtain ⟨revenue, hr, -⟩ := sumMoney_of_totalOf ((uncoveredBy_sublist_sequenceOf i).map _)
    hrevenueNone (sequenceOf_revenue_nonneg hvalid _) hrevenue
  obtain ⟨margin, hm, -⟩ := sumMoney_of_totalOf ((uncoveredBy_sublist_sequenceOf i).map _)
    hmarginNone (sequenceOf_margin_nonneg hvalid _) hmargin
  have hplain : plainDecimal cost = .ok cost := decimalResult_eq_ok.mpr hcost
  exact ⟨_, interventionOutcome_eq_ok.mpr
    ⟨fun _ => hpriority, hdemand, hne, revenue, margin, cost, hr, hm, hplain, rfl⟩⟩

theorem exists_options (hvalid : snapshot.Valid) (hne : snapshot.productionOrders ≠ [])
    (hdemand : DemandsKnown snapshot.productionOrders)
    (hpriority : PrioritiesComparable snapshot.productionOrders) (hpresent : AmountsPresent snapshot)
    (hcosts : CostsInRange snapshot) (hrange : TotalsInRange snapshot) :
    ∃ options, evaluateResponseOptions snapshot = .ok options := by
  obtain ⟨expedite, transfer, combined, he, ht, hc⟩ := hcosts
  obtain ⟨hexpedite, heresult⟩ := expediteCost_isResult hvalid he
  obtain ⟨htransfer, htresult⟩ := transferCost_isResult hvalid ht
  have hcresult := decimalContext.isResult_of_fix (add_nonneg hexpedite htransfer) hc
  have hzero := decimalContext.isResult_zero
  have houtcome : ∀ i ∈ interventions snapshot, ∀ cost, decimalContext.IsResult cost →
      ∃ outcome, calculateInterventionOutcome snapshot i.receipts i.transfers i.resequence cost =
        .ok outcome := fun i hi cost hcost =>
    exists_outcome hvalid hne hdemand hpriority hpresent hrange hi hcost
  obtain ⟨o₁, h₁⟩ := houtcome .noMitigation (by simp [interventions]) 0 hzero
  obtain ⟨o₂, h₂⟩ := houtcome (.expedite snapshot) (by simp [interventions]) expedite heresult
  obtain ⟨o₃, h₃⟩ := houtcome (.transfer snapshot) (by simp [interventions]) transfer htresult
  obtain ⟨o₄, h₄⟩ := houtcome .resequenced (by simp [interventions]) 0 hzero
  obtain ⟨o₅, h₅⟩ := houtcome (.combined snapshot) (by simp [interventions]) combined hcresult
  exact ⟨_, evaluateResponseOptions_eq_ok.mpr
    ⟨⟨o₁, o₂, o₃, o₄, o₅⟩, optionOutcomes_eq_ok.mpr
      ⟨expedite, transfer, combined, he, ht, hc, h₁, h₂, h₃, h₄, h₅⟩, rfl⟩⟩

/-! ### A missing demand -/

theorem evaluate_missing_demand (hcosts : CostsInRange snapshot)
    (hdemand : ¬ DemandsKnown snapshot.productionOrders) :
    ∃ order ∈ snapshot.productionOrders, order.componentDemand = none ∧
      evaluateResponseOptions snapshot = .error (.valueError
        s!"Production order {order.productionOrderId} is missing component demand") := by
  obtain ⟨expedite, transfer, combined, he, ht, hc⟩ := hcosts
  obtain ⟨order, hfind, herr⟩ := @allocateOrders_error [] _
    (fun h => hdemand ((demandsKnown_sequenceOf false).mp h)) (disruptedStock snapshot) []
  have hmem := (sequenceOf_perm snapshot false).mem_iff.mp (List.mem_of_find?_eq_some hfind)
  have hnone : order.componentDemand = none := by simpa using List.find?_some hfind
  refine ⟨order, hmem, hnone, ?_⟩
  have houtcome : calculateInterventionOutcome snapshot [] [] false 0 = .error (.valueError
      s!"Production order {order.productionOrderId} is missing component demand") := by
    rw [calculateInterventionOutcome, orderSequence]
    simp only [Bool.false_eq_true, if_false]
    change (allocateComponentSupply (disruptedStock snapshot) [] [] (sequenceOf snapshot false)
      >>= _) = _
    rw [allocateComponentSupply, List.append_nil, herr]
    rfl
  have hcombined : decimalResult (decimalContext.add expedite transfer) = .ok combined :=
    decimalResult_eq_ok.mpr hc
  rw [evaluateResponseOptions, optionOutcomes, he, ht]
  simp only [bind, Except.bind]
  rw [hcombined]
  simp only [houtcome]

/-- The evaluation of a valid snapshot: what it returns is within its bounds;
with orders, known demands, comparable priorities and amounts present and in
range it returns; and a missing demand is reported. -/
theorem evaluateResponseOptions_safe (snapshot : OperationalSnapshot) (hvalid : snapshot.Valid) :
    (∀ options, evaluateResponseOptions snapshot = .ok options →
      options.length = 6 ∧ ∀ option ∈ options, ∀ outcome ∈ option.predicted,
        OutcomeInBounds snapshot option.optionKind outcome) ∧
    (snapshot.productionOrders ≠ [] → DemandsKnown snapshot.productionOrders →
      PrioritiesComparable snapshot.productionOrders → AmountsPresent snapshot →
      CostsInRange snapshot → TotalsInRange snapshot →
      ∃ options, evaluateResponseOptions snapshot = .ok options) ∧
    (¬ DemandsKnown snapshot.productionOrders → CostsInRange snapshot →
      ∃ order ∈ snapshot.productionOrders, order.componentDemand = none ∧
        evaluateResponseOptions snapshot = .error (.valueError
          s!"Production order {order.productionOrderId} is missing component demand")) := by
  refine ⟨fun options h => ⟨?_, fun option hoption outcome houtcome => ?_⟩, ?_, ?_⟩
  · obtain ⟨outcomes, -, rfl⟩ := evaluateResponseOptions_eq_ok.mp h
    rfl
  · exact outcomeInBounds hvalid h hoption houtcome
  · exact fun hne hdemand hpriority hpresent hcosts hrange =>
      exists_options hvalid hne hdemand hpriority hpresent hcosts hrange
  · exact fun hdemand hcosts => evaluate_missing_demand hcosts hdemand

theorem evaluateResponseOptions_safe_sample :
    ∃ options, evaluateResponseOptions (.rl001 "RL-CASE-1" .fallback) = .ok options ∧
      options.length = 6 := by
  have hsafe := evaluateResponseOptions_safe (.rl001 "RL-CASE-1" .fallback)
    (OperationalSnapshot.rl001_valid _ _)
  have hok : (evaluateResponseOptions (.rl001 "RL-CASE-1" .fallback)).toBool = true := by
    decide +kernel
  revert hok hsafe
  cases evaluateResponseOptions (.rl001 "RL-CASE-1" .fallback) with
  | error e => exact fun _ => nofun
  | ok options => exact fun hsafe _ => ⟨options, rfl, (hsafe.1 options rfl).1⟩

/-- RL-001 with other production orders. -/
def rl001With (orders : List ProductionOrder) : OperationalSnapshot :=
  { OperationalSnapshot.rl001 "RL-CASE-1" .fallback with productionOrders := orders }

theorem rl001With_valid {orders : List ProductionOrder} (h : ∀ o ∈ orders, o.Valid) :
    (rl001With orders).Valid :=
  have hvalid := OperationalSnapshot.rl001_valid "RL-CASE-1" .fallback
  ⟨h, hvalid.customerOrders, hvalid.originalQuantity, hvalid.alphaExpedite, hvalid.transfer⟩

/-- An order whose demand is not known. -/
def orderWithoutDemand : ProductionOrder :=
  { sampleOrder "A" 739864 5000 3 with componentDemand := none }

/-- An admitted snapshot that is not evaluated, because of an order without
demand; nor are one without orders, one with priorities of some orders only, and
one with an unprotected order without revenue. -/
theorem evaluate_raises :
    (rl001With [orderWithoutDemand]).Valid ∧
      evaluateResponseOptions (rl001With [orderWithoutDemand]) =
        .error (.valueError "Production order A is missing component demand") ∧
      evaluateResponseOptions (rl001With []) = .error .zeroDivisionError ∧
      evaluateResponseOptions (rl001With [sampleOrder "A" 739864 5000 3,
        { sampleOrder "B" 739864 5000 3 with customerPriority := none }]) = .error .typeError ∧
      evaluateResponseOptions (rl001With
        [{ sampleOrder "A" 739864 5000 3 with customerRevenue := none }]) = .error .typeError := by
  refine ⟨rl001With_valid ?_, by decide +kernel, by decide +kernel, by decide +kernel,
    by decide +kernel⟩
  intro o ho
  obtain rfl := List.mem_singleton.mp ho
  refine ⟨by decide, nofun, ?_, ?_, ?_⟩
  all_goals
    intro v hv
    obtain rfl := Option.some.inj hv
    norm_num

end SupplyResponse
