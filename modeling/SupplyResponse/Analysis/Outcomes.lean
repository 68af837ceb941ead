/-
The predicted outcomes of the interventions.

* `Intervention`, `interventions` — the supplies and the sequence an option
  counts on;
* `sequenceOf`, `allocationFor`, `coveredBy` — the sequence, the allocation and
  the protected orders of an intervention, as pure functions of the snapshot;
* `interventionOutcome_eq_ok` — when an outcome is computed and what it is;
* `evaluateResponseOptions_eq_ok` — the same of the six options.
-/
import SupplyResponse.Analysis.Coverage
import SupplyResponse.Policy.FinanceReview
import Mathlib.Data.List.ReduceOption

namespace SupplyResponse

/-! ### Sums of money -/

theorem decimalResult_eq_ok {result : Option Money} {v : Money} :
    decimalResult result = .ok v ↔ result = some v := by
  cases result with
  | none => simp [decimalResult]
  | some w => simp [decimalResult]

theorem foldlM_money_eq_ok {values : List (Option Money)} {total v : Money} :
    values.foldlM
        (fun total value => value.elim (.error AnalysisError.typeError) fun v =>
          decimalResult (decimalContext.add total v))
        total = .ok v ↔
      none ∉ values ∧ decimalContext.sumFrom total values.reduceOption = some v := by
  induction values generalizing total with
  | nil => simp [List.reduceOption, pure, Except.pure]
  | cons value values ih =>
    rw [List.foldlM_cons, bind_eq_ok]
    cases value with
    | none => simp
    | some w =>
      simp only [Option.elim_some, decimalResult_eq_ok, ih, List.reduceOption_cons_of_some,
        Decimal.Context.sumFrom_cons, Option.bind_eq_some_iff, List.mem_cons, reduceCtorEq, false_or]
      tauto

/-- A sum of money is computed when nothing is missing and nothing overflows. -/
theorem sumMoney_eq_ok {values : List (Option Money)} {v : Money} :
    sumMoney values = .ok v ↔
      none ∉ values ∧ decimalContext.sumFrom 0 values.reduceOption = some v :=
  foldlM_money_eq_ok

theorem nonneg_of_mem_reduceOption {values : List (Option Money)}
    (h : ∀ value ∈ values, NonnegIfPresent value) : ∀ v ∈ values.reduceOption, 0 ≤ v := by
  intro v hv
  exact h (some v) (List.reduceOption_mem_iff.mp hv) v rfl

theorem sumMoney_nonneg {values : List (Option Money)} {v : Money}
    (hvalues : ∀ value ∈ values, NonnegIfPresent value) (h : sumMoney values = .ok v) : 0 ≤ v :=
  (decimalContext.sumFrom_isResult le_rfl decimalContext.isResult_zero
    (nonneg_of_mem_reduceOption hvalues) (sumMoney_eq_ok.mp h).2).1

/-- Leaving out values does not make a sum larger. -/
theorem sumMoney_le_of_sublist {xs ys : List (Option Money)} (hsub : xs.Sublist ys)
    (hys : ∀ value ∈ ys, NonnegIfPresent value) {v w : Money} (hv : sumMoney xs = .ok v)
    (hw : sumMoney ys = .ok w) : v ≤ w := by
  obtain ⟨s, hs, hle⟩ := decimalContext.sumFrom_sublist (hsub.filterMap id)
    (nonneg_of_mem_reduceOption hys) le_rfl le_rfl decimalContext.isResult_zero
    (sumMoney_eq_ok.mp hw).2
  have hv' := (sumMoney_eq_ok.mp hv).2
  rw [List.reduceOption, hs] at hv'
  exact Option.some.inj hv' ▸ hle

/-! ### Sequences -/

/-- The sequence of an intervention; by priority where priorities compare. -/
def sequenceOf (snapshot : OperationalSnapshot) (resequence : Bool) : List ProductionOrder :=
  if resequence then snapshot.productionOrders.insertionSort PriorityBefore
  else sortedByDueDate snapshot.productionOrders

theorem sequenceOf_perm (snapshot : OperationalSnapshot) (resequence : Bool) :
    (sequenceOf snapshot resequence).Perm snapshot.productionOrders := by
  cases resequence with
  | false => exact List.perm_insertionSort _ _
  | true => exact List.perm_insertionSort _ _

theorem orderSequence_eq_ok {snapshot : OperationalSnapshot} {resequence : Bool}
    {orders : List ProductionOrder} :
    orderSequence snapshot resequence = .ok orders ↔
      (resequence = true → PrioritiesComparable snapshot.productionOrders) ∧
        orders = sequenceOf snapshot resequence := by
  cases resequence with
  | false => simp [orderSequence, sequenceOf, eq_comm]
  | true =>
    by_cases h : PrioritiesComparable snapshot.productionOrders
    · simp [orderSequence, sortedByPriority, sequenceOf, h, eq_comm]
    · simp [orderSequence, sortedByPriority, h]

theorem demandsKnown_sequenceOf {snapshot : OperationalSnapshot} (resequence : Bool) :
    DemandsKnown (sequenceOf snapshot resequence) ↔ DemandsKnown snapshot.productionOrders := by
  simp only [DemandsKnown, (sequenceOf_perm snapshot resequence).mem_iff]

/-! ### Interventions -/

/-- What an option counts on. -/
structure Intervention where
  receipts : List TimedQuantity
  transfers : List TimedQuantity
  resequence : Bool

namespace Intervention

def noMitigation : Intervention := ⟨[], [], false⟩

def expedite (snapshot : OperationalSnapshot) : Intervention :=
  ⟨(alphaReceipt snapshot).toList, [], false⟩

def transfer (snapshot : OperationalSnapshot) : Intervention := ⟨[], [dallasTransfer snapshot], false⟩

def resequenced : Intervention := ⟨[], [], true⟩

def combined (snapshot : OperationalSnapshot) : Intervention :=
  ⟨(alphaReceipt snapshot).toList, [dallasTransfer snapshot], true⟩

/-- Receipts and transfers. -/
def supplies (i : Intervention) : List TimedQuantity := i.receipts ++ i.transfers

end Intervention

/-- The interventions whose outcomes are computed. -/
def interventions (snapshot : OperationalSnapshot) : List Intervention :=
  [.noMitigation, .expedite snapshot, .transfer snapshot, .resequenced, .combined snapshot]

theorem interventions_quantities {snapshot : OperationalSnapshot} {i : Intervention}
    (h : i ∈ interventions snapshot) : QuantitiesNonneg i.supplies := by
  have halpha : ∀ s ∈ (alphaReceipt snapshot).toList, 0 ≤ s.quantity := by
    intro s hs
    obtain ⟨alpha, -, rfl⟩ := Option.map_eq_some_iff.mp (Option.mem_toList.mp hs)
    exact Int.natCast_nonneg _
  have hdallas : 0 ≤ (dallasTransfer snapshot).quantity := Int.natCast_nonneg _
  simp only [interventions, List.mem_cons, List.not_mem_nil, or_false] at h
  intro s hs
  rcases h with rfl | rfl | rfl | rfl | rfl
  · simp [Intervention.supplies, Intervention.noMitigation] at hs
  · simp only [Intervention.supplies, Intervention.expedite, List.append_nil] at hs
    exact halpha s hs
  · simp only [Intervention.supplies, Intervention.transfer, List.nil_append,
      List.mem_singleton] at hs
    exact hs ▸ hdallas
  · simp [Intervention.supplies, Intervention.resequenced] at hs
  · simp only [Intervention.supplies, Intervention.combined, List.mem_append,
      List.mem_singleton] at hs
    rcases hs with hs | rfl
    · exact halpha s hs
    · exact hdallas

section outcome

variable (snapshot : OperationalSnapshot) (i : Intervention)

/-- The usable stock of the disrupted part at the disrupted plant. -/
def disruptedStock : ℤ :=
  snapshot.usableInventory snapshot.disruption.partId snapshot.disruption.plantId

def allocationFor : ComponentSupplyAllocation :=
  allocationOf i.supplies (disruptedStock snapshot) (sequenceOf snapshot i.resequence)

/-- The orders that the intervention protects. -/
def coveredBy : List ProductionOrder :=
  protectedOrders (allocationFor snapshot i) (sequenceOf snapshot i.resequence)

/-- The orders that it does not protect. -/
def uncoveredBy : List ProductionOrder :=
  unprotectedOrders (sequenceOf snapshot i.resequence) (coveredBy snapshot i)

end outcome

/-- The outcome of an intervention with the given sums. -/
def outcomeOf (snapshot : OperationalSnapshot) (i : Intervention) (revenue margin cost : Money) :
    PredictedOutcome where
  uncoveredPartDemand := (allocationFor snapshot i).uncoveredComponentUnits
  otifLossPercentage :=
    100 * ((snapshot.productionOrders.length : ℤ) - (coveredBy snapshot i).length) /
      snapshot.productionOrders.length
  revenueAtRisk := revenue
  marginAtRisk := margin
  responseCost := cost
  protectedCustomerOrderIds := (coveredBy snapshot i).filterMap ProductionOrder.customerOrderId

variable {snapshot : OperationalSnapshot}

theorem interventionOutcome_eq_ok {i : Intervention} {responseCost : Money}
    {outcome : PredictedOutcome} :
    calculateInterventionOutcome snapshot i.receipts i.transfers i.resequence responseCost =
        .ok outcome ↔
      (i.resequence = true → PrioritiesComparable snapshot.productionOrders) ∧
      DemandsKnown snapshot.productionOrders ∧ snapshot.productionOrders ≠ [] ∧
      ∃ revenue margin cost,
        sumMoney ((uncoveredBy snapshot i).map ProductionOrder.customerRevenue) = .ok revenue ∧
        sumMoney ((uncoveredBy snapshot i).map ProductionOrder.customerMargin) = .ok margin ∧
        plainDecimal responseCost = .ok cost ∧
        outcome = outcomeOf snapshot i revenue margin cost := by
  have hlength := (sequenceOf_perm snapshot i.resequence).length_eq
  rw [calculateInterventionOutcome]
  simp only [bind_eq_ok, orderSequence_eq_ok]
  constructor
  · rintro ⟨orders, ⟨hpriority, rfl⟩, allocation, hallocation, h⟩
    have hdemand := demandsKnown_of_ok hallocation
    rw [allocateComponentSupply_eq hdemand] at hallocation
    obtain rfl := Except.ok.inj hallocation
    obtain ⟨otif, hotif, revenue, hrevenue, margin, hmargin, cost, hcost, h⟩ := h
    rw [otifLossPercentage, hlength] at hotif
    split_ifs at hotif with hempty
    refine ⟨hpriority, (demandsKnown_sequenceOf _).mp hdemand, fun h => hempty (by rw [h]; rfl),
      revenue, margin, cost, hrevenue, hmargin, hcost, ?_⟩
    rw [← Except.ok.inj h, ← Except.ok.inj hotif]
    rfl
  · rintro ⟨hpriority, hdemand, hne, revenue, margin, cost, hrevenue, hmargin, hcost, rfl⟩
    refine ⟨_, ⟨hpriority, rfl⟩, _,
      allocateComponentSupply_eq ((demandsKnown_sequenceOf _).mpr hdemand) _, _, ?_, revenue,
      hrevenue, margin, hmargin, cost, hcost, rfl⟩
    rw [otifLossPercentage, hlength, if_neg (fun h => hne (List.length_eq_zero_iff.mp h))]
    rfl

/-! ### The options -/

theorem optionOutcomes_eq_ok {outcomes : OptionOutcomes} :
    optionOutcomes snapshot = .ok outcomes ↔
      ∃ expedite transfer combined,
        expediteCost snapshot = .ok expedite ∧ transferCost snapshot = .ok transfer ∧
        decimalContext.add expedite transfer = some combined ∧
        calculateInterventionOutcome snapshot [] [] false 0 = .ok outcomes.noMitigation ∧
        calculateInterventionOutcome snapshot (alphaReceipt snapshot).toList [] false expedite =
          .ok outcomes.expedite ∧
        calculateInterventionOutcome snapshot [] [dallasTransfer snapshot] false transfer =
          .ok outcomes.transfer ∧
        calculateInterventionOutcome snapshot [] [] true 0 = .ok outcomes.resequence ∧
        calculateInterventionOutcome snapshot (alphaReceipt snapshot).toList
          [dallasTransfer snapshot] true combined = .ok outcomes.combined := by
  rw [optionOutcomes]
  simp only [bind_eq_ok, decimalResult_eq_ok]
  constructor
  · rintro ⟨expedite, he, transfer, ht, combined, hc, o₁, h₁, o₂, h₂, o₃, h₃, o₄, h₄, o₅, h₅, h⟩
    obtain rfl := Except.ok.inj h
    exact ⟨expedite, transfer, combined, he, ht, hc, h₁, h₂, h₃, h₄, h₅⟩
  · rintro ⟨expedite, transfer, combined, he, ht, hc, h₁, h₂, h₃, h₄, h₅⟩
    exact ⟨expedite, he, transfer, ht, combined, hc, _, h₁, _, h₂, _, h₃, _, h₄, _, h₅, rfl⟩

/-- Resequencing changes something. -/
def resequences (snapshot : OperationalSnapshot) : Bool :=
  decide ((sequenceOf snapshot true).map ProductionOrder.productionOrderId ≠
    (sequenceOf snapshot false).map ProductionOrder.productionOrderId)

theorem resequenceAvailable_eq_ok {available : Bool} :
    resequenceAvailable snapshot = .ok available ↔
      PrioritiesComparable snapshot.productionOrders ∧ available = resequences snapshot := by
  rw [resequenceAvailable, bind_eq_ok]
  by_cases h : PrioritiesComparable snapshot.productionOrders
  · rw [sortedByPriority, if_pos h]
    constructor
    · rintro ⟨orders, horders, hr⟩
      obtain rfl := Except.ok.inj horders
      exact ⟨h, (Except.ok.inj hr).symm⟩
    · rintro ⟨-, rfl⟩
      exact ⟨_, rfl, rfl⟩
  · simp [sortedByPriority, h]

/-- The six options with given outcomes. -/
def optionsOf (snapshot : OperationalSnapshot) (outcomes : OptionOutcomes) : List ResponseOption :=
  [noMitigationOption snapshot outcomes, expediteOption snapshot outcomes,
    transferOption snapshot outcomes, resequenceOption snapshot outcomes (resequences snapshot),
    betaOption snapshot outcomes, combinedOption snapshot outcomes (resequences snapshot)]

theorem evaluateResponseOptions_eq_ok {options : List ResponseOption} :
    evaluateResponseOptions snapshot = .ok options ↔
      ∃ outcomes, optionOutcomes snapshot = .ok outcomes ∧ options = optionsOf snapshot outcomes := by
  rw [evaluateResponseOptions]
  simp only [bind_eq_ok, resequenceAvailable_eq_ok]
  constructor
  · rintro ⟨outcomes, houtcomes, available, ⟨-, rfl⟩, h⟩
    exact ⟨outcomes, houtcomes, (Except.ok.inj h).symm⟩
  · rintro ⟨outcomes, houtcomes, rfl⟩
    -- the resequenced outcome has compared the priorities before
    obtain ⟨_, _, _, -, -, -, -, -, -, hresequence, -⟩ := optionOutcomes_eq_ok.mp houtcomes
    have hpriority := (interventionOutcome_eq_ok (i := .resequenced)).mp hresequence
    exact ⟨outcomes, houtcomes, _, ⟨hpriority.1 rfl, rfl⟩, rfl⟩

/-- Every prediction is the outcome of one of the interventions. -/
theorem predicted_of_evaluate {options : List ResponseOption}
    (h : evaluateResponseOptions snapshot = .ok options) {option : ResponseOption}
    (hoption : option ∈ options) {outcome : PredictedOutcome}
    (houtcome : option.predicted = some outcome) :
    ∃ i ∈ interventions snapshot, ∃ cost,
      calculateInterventionOutcome snapshot i.receipts i.transfers i.resequence cost =
        .ok outcome := by
  obtain ⟨outcomes, houtcomes, rfl⟩ := evaluateResponseOptions_eq_ok.mp h
  obtain ⟨expedite, transfer, combined, -, -, -, h₁, h₂, h₃, h₄, h₅⟩ :=
    optionOutcomes_eq_ok.mp houtcomes
  simp only [optionsOf, List.mem_cons, List.not_mem_nil, or_false] at hoption
  rcases hoption with rfl | rfl | rfl | rfl | rfl | rfl
  · obtain rfl := Option.some.inj houtcome
    exact ⟨.noMitigation, by simp [interventions], 0, h₁⟩
  · obtain rfl := Option.some.inj houtcome
    exact ⟨.expedite snapshot, by simp [interventions], expedite, h₂⟩
  · obtain rfl := Option.some.inj houtcome
    exact ⟨.transfer snapshot, by simp [interventions], transfer, h₃⟩
  · obtain rfl := Option.some.inj houtcome
    exact ⟨.resequenced, by simp [interventions], 0, h₄⟩
  · -- the alternate source keeps the outcome of doing nothing
    simp only [betaOption] at houtcome
    split_ifs at houtcome
    obtain rfl := Option.some.inj houtcome
    exact ⟨.noMitigation, by simp [interventions], 0, h₁⟩
  · obtain rfl := Option.some.inj houtcome
    exact ⟨.combined snapshot, by simp [interventions], combined, h₅⟩

end SupplyResponse
