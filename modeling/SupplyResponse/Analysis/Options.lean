/-
The response options of a snapshot (`services/analysis/options.py`).

* `decimalContext` — the arithmetic of `Decimal` values;
* `calculateInterventionOutcome` — the predicted outcome of an intervention:
  sort the orders, allocate, and sum what is not protected;
* `optionOutcomes`, `evaluateResponseOptions` — the outcomes and the options;
* `calculateOptionOutcome` — the outcome of one option.
-/
import SupplyResponse.Analysis.Exposure
import SupplyResponse.Domain.Finance
import SupplyResponse.Numbers.Decimal
import Mathlib.Data.String.Basic
import Mathlib.Order.Lattice

namespace SupplyResponse

/-! ### Money -/

/-- The default context of Python's `decimal`. -/
def decimalContext : Decimal.Context := ⟨28, -999999, 999999, by decide⟩

/-- The value of a `Decimal` operation, which raises on overflow. -/
def decimalResult (result : Option Money) : Except AnalysisError Money :=
  result.elim (.error .overflow) .ok

/-- `sum(values, Decimal("0"))`; `None` is no summand. -/
def sumMoney (values : List (Option Money)) : Except AnalysisError Money :=
  values.foldlM
    (fun total value => value.elim (.error .typeError) fun v =>
      decimalResult (decimalContext.add total v))
    0

/-- `_plain_decimal`: `normalize` is an operation of the context. -/
def plainDecimal (value : Money) : Except AnalysisError Money :=
  decimalResult (decimalContext.fix value)

/-! ### Order sequences -/

/-- `(due_date, production_order_id)` of `a` is not after that of `b`. -/
def DueBefore (a b : ProductionOrder) : Prop :=
  a.dueDate < b.dueDate ∨ a.dueDate = b.dueDate ∧ a.productionOrderId ≤ b.productionOrderId

/-- `(customer_priority, production_order_id)` of `a` is not after that of `b`;
only called where both priorities are numbers or both are missing. -/
def PriorityBefore (a b : ProductionOrder) : Prop :=
  a.customerPriority.getD 0 < b.customerPriority.getD 0 ∨
    a.customerPriority = b.customerPriority ∧ a.productionOrderId ≤ b.productionOrderId

instance (a b : ProductionOrder) : Decidable (DueBefore a b) :=
  inferInstanceAs (Decidable (_ ∨ _ ∧ _))

instance (a b : ProductionOrder) : Decidable (PriorityBefore a b) :=
  inferInstanceAs (Decidable (_ ∨ _ ∧ _))

def sortedByDueDate (orders : List ProductionOrder) : List ProductionOrder :=
  orders.insertionSort DueBefore

/-- All priorities are numbers, or all are missing. -/
def PrioritiesComparable (orders : List ProductionOrder) : Prop :=
  (∀ o ∈ orders, o.customerPriority ≠ none) ∨ ∀ o ∈ orders, o.customerPriority = none

instance (orders : List ProductionOrder) : Decidable (PrioritiesComparable orders) :=
  inferInstanceAs (Decidable (_ ∨ _))

/-- A sort that has to compare a missing priority with a number raises; equal
first components, two missing ones among them, leave it to the ids. -/
def sortedByPriority (orders : List ProductionOrder) : Except AnalysisError (List ProductionOrder) :=
  if PrioritiesComparable orders then .ok (orders.insertionSort PriorityBefore)
  else .error .typeError

/-- The sequence in which an intervention serves the orders. -/
def orderSequence (snapshot : OperationalSnapshot) (resequenceByPriority : Bool) :
    Except AnalysisError (List ProductionOrder) :=
  if resequenceByPriority then sortedByPriority snapshot.productionOrders
  else .ok (sortedByDueDate snapshot.productionOrders)

/-! ### Predicted outcomes -/

/-- `calculate_approval_burden`. -/
def calculateApprovalBurden (prerequisiteRoles : List String) : ℤ :=
  (prerequisiteRoles.filter fun role => role ≠ "response_approver").dedup.length

/-- `calculate_execution_risk`. -/
def calculateExecutionRisk (unconfirmedExternalCommitments crossPlantMovements scheduleChanges
    coordinatedActionCount : ℤ) : ℤ :=
  2 * unconfirmedExternalCommitments + crossPlantMovements + scheduleChanges +
    max 0 (coordinatedActionCount - 1)

/-- The orders whose whole demand is covered; every order has an allocation. -/
def protectedOrders (allocation : ComponentSupplyAllocation) (orders : List ProductionOrder) :
    List ProductionOrder :=
  orders.filter fun o => (allocation.getItem o.productionOrderId).any OrderAllocation.fullAndOnTime

/-- `100 * (len(orders) - len(protected)) // len(orders)`. -/
def otifLossPercentage (orders covered : List ProductionOrder) : Except AnalysisError ℤ :=
  if orders.length = 0 then .error .zeroDivisionError
  else .ok (100 * ((orders.length : ℤ) - covered.length) / orders.length)

/-- The orders that are not protected. -/
def unprotectedOrders (orders covered : List ProductionOrder) : List ProductionOrder :=
  orders.filter fun o => o ∉ covered

/-- `_calculate_intervention_outcome`. -/
def calculateInterventionOutcome (snapshot : OperationalSnapshot)
    (receipts transfers : List TimedQuantity) (resequenceByPriority : Bool)
    (responseCost : Money) : Except AnalysisError PredictedOutcome := do
  let orders ← orderSequence snapshot resequenceByPriority
  let allocation ← allocateComponentSupply
    (snapshot.usableInventory snapshot.disruption.partId snapshot.disruption.plantId)
    receipts transfers orders
  let covered := protectedOrders allocation orders
  let otif ← otifLossPercentage orders covered
  let revenue ← sumMoney ((unprotectedOrders orders covered).map ProductionOrder.customerRevenue)
  let margin ← sumMoney ((unprotectedOrders orders covered).map ProductionOrder.customerMargin)
  let cost ← plainDecimal responseCost
  pure
    { uncoveredPartDemand := allocation.uncoveredComponentUnits
      otifLossPercentage := otif
      revenueAtRisk := revenue
      marginAtRisk := margin
      responseCost := cost
      protectedCustomerOrderIds := covered.filterMap ProductionOrder.customerOrderId }

/-! ### Interventions -/

/-- `_alpha_receipt`. -/
def alphaReceipt (snapshot : OperationalSnapshot) : Option TimedQuantity :=
  snapshot.alphaExpedite.map fun alpha => ⟨alpha.dueDate, alpha.quantity, alpha.receiptId⟩

/-- `_dallas_transfer`. -/
def dallasTransfer (snapshot : OperationalSnapshot) : TimedQuantity :=
  ⟨snapshot.transfer.arrivalDate, snapshot.transfer.quantity, snapshot.transfer.transferId⟩

/-- `_option_roles`. -/
def optionRoles (financeRequired qualityRequired : Bool) : List String :=
  ["material_planner"] ++ (if financeRequired then ["finance_approver"] else []) ++
    (if qualityRequired then ["quality_approver"] else [])

/-- `_unconfirmed_recovery_commitments`. -/
def unconfirmedRecoveryCommitments (snapshot : OperationalSnapshot) : ℤ :=
  if snapshot.disruption.recoveryDate = none then 1 else 0

/-- `_recovery_uncertainties`. -/
def recoveryUncertainties (snapshot : OperationalSnapshot) : List String :=
  if snapshot.disruption.recoveryDate = none then
    ["Remaining supplier recovery date is unconfirmed."]
  else []

/-- `_transfer_available`. -/
def transferAvailable (snapshot : OperationalSnapshot) : Bool :=
  (snapshot.transfer.quantity : ℤ) ≤
    snapshot.usableInventory snapshot.transfer.partId snapshot.transfer.sourcePlantId

/-- `_resequence_available`. -/
def resequenceAvailable (snapshot : OperationalSnapshot) : Except AnalysisError Bool := do
  let dueOrder := (sortedByDueDate snapshot.productionOrders).map ProductionOrder.productionOrderId
  let priorityOrder ← sortedByPriority snapshot.productionOrders
  pure (decide (priorityOrder.map ProductionOrder.productionOrderId ≠ dueOrder))

/-- `_cross_plant_movements`. -/
def crossPlantMovements (snapshot : OperationalSnapshot) : ℤ :=
  if snapshot.transfer.sourcePlantId ≠ snapshot.transfer.destinationPlantId then 1 else 0

/-- `_schedule_changes`. -/
def scheduleChanges (resequenced : Bool) : ℤ := if resequenced then 1 else 0

/-- `_coordinated_action_count`. -/
def coordinatedActionCount (expedite transfer resequence : Bool) : ℤ :=
  (if expedite then 1 else 0) + (if transfer then 1 else 0) + (if resequence then 1 else 0)

/-- `_lineage`. -/
def lineage (snapshot : OperationalSnapshot) (includeAlpha includeTransfer includeBeta : Bool) :
    List String :=
  [snapshot.disruption.sourceRef] ++
    (snapshot.inventoryPositions.filter fun p =>
      p.partId = snapshot.disruption.partId ∧ p.plantId = snapshot.disruption.plantId).map
        InventoryPosition.inventoryId ++
    snapshot.productionOrders.map ProductionOrder.productionOrderId ++
    (if includeAlpha then snapshot.alphaExpedite.toList.map SupplyReceiptOption.receiptId else []) ++
    (if includeTransfer then
      (snapshot.inventoryPositions.filter fun p =>
        p.partId = snapshot.transfer.partId ∧ p.plantId = snapshot.transfer.sourcePlantId).map
          InventoryPosition.inventoryId ++ [snapshot.transfer.transferId]
    else []) ++
    (if includeBeta then [snapshot.betaQualification.evidenceRef] else [])

/-! ### The options -/

/-- `_option_outcomes`. -/
structure OptionOutcomes where
  noMitigation : PredictedOutcome
  expedite : PredictedOutcome
  transfer : PredictedOutcome
  resequence : PredictedOutcome
  combined : PredictedOutcome
  deriving DecidableEq

/-- The cost of the expedited receipt. -/
def expediteCost (snapshot : OperationalSnapshot) : Except AnalysisError Money :=
  match snapshot.alphaExpedite with
  | none => .ok 0
  | some alpha => decimalResult (decimalContext.mul alpha.quantity alpha.incrementalCostPerUnit)

/-- The cost of the transfer. -/
def transferCost (snapshot : OperationalSnapshot) : Except AnalysisError Money :=
  decimalResult
    (decimalContext.mul snapshot.transfer.quantity snapshot.transfer.incrementalCostPerUnit)

def optionOutcomes (snapshot : OperationalSnapshot) : Except AnalysisError OptionOutcomes := do
  let expedite ← expediteCost snapshot
  let transfer ← transferCost snapshot
  let combined ← decimalResult (decimalContext.add expedite transfer)
  let receipts := (alphaReceipt snapshot).toList
  let transfers := [dallasTransfer snapshot]
  pure
    { noMitigation := ← calculateInterventionOutcome snapshot [] [] false 0
      expedite := ← calculateInterventionOutcome snapshot receipts [] false expedite
      transfer := ← calculateInterventionOutcome snapshot [] transfers false transfer
      resequence := ← calculateInterventionOutcome snapshot [] [] true 0
      combined := ← calculateInterventionOutcome snapshot receipts transfers true combined }

/-- The requirement of quantity and date that an option has of its supply. -/
def supplyRequirement (evidenceId : String) : ResponseOptionEvidenceRequirement :=
  ⟨evidenceId, [.operationalQuantity, .operationalDate]⟩

def noMitigationOption (snapshot : OperationalSnapshot) (outcomes : OptionOutcomes) :
    ResponseOption where
  optionId := "RL-OPTION-NO-MITIGATION"
  optionKind := .noMitigation
  name := "No-Mitigation Baseline"
  executable := false
  activeMitigation := false
  predicted := some outcomes.noMitigation
  approvalBurden := calculateApprovalBurden []
  executionRisk := calculateExecutionRisk 0 0 0 0
  assumptions := ["Optional Alpha expedite receipt is excluded."]
  sourceDataLineage := lineage snapshot false false false

def expediteOption (snapshot : OperationalSnapshot) (outcomes : OptionOutcomes) :
    ResponseOption :=
  let roles := optionRoles (RequiresFinanceApproval outcomes.expedite.responseCost) false
  { optionId := "RL-OPTION-EXPEDITE"
    optionKind := .expedite
    name := "Expedite Alpha partial receipt"
    executable := snapshot.alphaExpedite.isSome
    activeMitigation := true
    predicted := some outcomes.expedite
    prerequisiteRoles := roles
    approvalBurden := calculateApprovalBurden roles
    executionRisk := calculateExecutionRisk (unconfirmedRecoveryCommitments snapshot) 0 0
      (coordinatedActionCount true false false)
    blockingCodes :=
      if snapshot.alphaExpedite.isSome then [] else ["ALPHA_PARTIAL_SHIPMENT_UNAVAILABLE"]
    assumptions :=
      (if snapshot.alphaExpedite.isSome then
        ["Alpha receipt is confirmed for its offered due date."]
      else ["No positive Alpha partial-shipment offer is available."]) ++
        recoveryUncertainties snapshot
    evidenceIds := snapshot.alphaExpedite.toList.map SupplyReceiptOption.receiptId
    evidenceRequirements :=
      snapshot.alphaExpedite.toList.map fun alpha => supplyRequirement alpha.receiptId
    sourceDataLineage := lineage snapshot true false false }

def transferOption (snapshot : OperationalSnapshot) (outcomes : OptionOutcomes) :
    ResponseOption :=
  let roles := optionRoles false false
  { optionId := "RL-OPTION-TRANSFER"
    optionKind := .transfer
    name := "Transfer inventory from Dallas"
    executable := transferAvailable snapshot
    activeMitigation := true
    predicted := some outcomes.transfer
    prerequisiteRoles := roles
    approvalBurden := calculateApprovalBurden roles
    executionRisk := calculateExecutionRisk 0 (crossPlantMovements snapshot) 0
      (coordinatedActionCount false true false)
    blockingCodes :=
      if transferAvailable snapshot then [] else ["TRANSFER_INVENTORY_UNAVAILABLE"]
    evidenceIds := [snapshot.transfer.transferId]
    evidenceRequirements := [supplyRequirement snapshot.transfer.transferId]
    sourceDataLineage := lineage snapshot false true false }

def resequenceOption (snapshot : OperationalSnapshot) (outcomes : OptionOutcomes)
    (available : Bool) : ResponseOption :=
  let roles := optionRoles false false
  { optionId := "RL-OPTION-RESEQUENCE"
    optionKind := .resequence
    name := "Resequence production toward priority customers"
    executable := available
    activeMitigation := true
    predicted := some outcomes.resequence
    prerequisiteRoles := roles
    approvalBurden := calculateApprovalBurden roles
    executionRisk := calculateExecutionRisk 0 0 (scheduleChanges true)
      (coordinatedActionCount false false true)
    blockingCodes := if available then [] else ["RESEQUENCE_NOT_APPLICABLE"]
    sourceDataLineage := lineage snapshot false false false }

def betaOption (snapshot : OperationalSnapshot) (outcomes : OptionOutcomes) : ResponseOption :=
  let blocked : Bool := snapshot.betaQualification.status ≠ .approved
  let roles := optionRoles false true
  { optionId := "RL-OPTION-BETA"
    optionKind := .alternateSource
    name := "Source from Supplier Beta"
    executable := !blocked
    activeMitigation := true
    predicted := if blocked then none else some outcomes.noMitigation
    prerequisiteRoles := roles
    approvalBurden := calculateApprovalBurden roles
    executionRisk := calculateExecutionRisk (unconfirmedRecoveryCommitments snapshot) 0 0
      (coordinatedActionCount true false false)
    blockingCodes := if blocked then ["QUALITY_QUALIFICATION_PENDING"] else []
    assumptions :=
      if blocked then []
      else ["No confirmed Beta receipt quantity or date; conservative baseline exposure is retained."]
    evidenceIds := [snapshot.betaQualification.evidenceRef]
    evidenceRequirements := [⟨snapshot.betaQualification.evidenceRef, [.qualificationState]⟩]
    sourceDataLineage := lineage snapshot false false true }

def combinedOption (snapshot : OperationalSnapshot) (outcomes : OptionOutcomes)
    (resequenceAvailable : Bool) : ResponseOption :=
  let roles := optionRoles (RequiresFinanceApproval outcomes.combined.responseCost) false
  { optionId := "RL-OPTION-COMBINED"
    optionKind := .combined
    name := "Combine expedite, transfer, and resequencing"
    executable :=
      snapshot.alphaExpedite.isSome && transferAvailable snapshot && resequenceAvailable
    activeMitigation := true
    predicted := some outcomes.combined
    prerequisiteRoles := roles
    approvalBurden := calculateApprovalBurden roles
    executionRisk := calculateExecutionRisk (unconfirmedRecoveryCommitments snapshot)
      (crossPlantMovements snapshot) (scheduleChanges true) (coordinatedActionCount true true true)
    assumptions := recoveryUncertainties snapshot
    blockingCodes :=
      (if snapshot.alphaExpedite.isSome then [] else ["ALPHA_PARTIAL_SHIPMENT_UNAVAILABLE"]) ++
        (if transferAvailable snapshot then [] else ["TRANSFER_INVENTORY_UNAVAILABLE"]) ++
        (if resequenceAvailable then [] else ["RESEQUENCE_NOT_APPLICABLE"])
    evidenceIds :=
      snapshot.alphaExpedite.toList.map SupplyReceiptOption.receiptId ++
        [snapshot.transfer.transferId]
    evidenceRequirements :=
      (snapshot.alphaExpedite.toList.map fun alpha => supplyRequirement alpha.receiptId) ++
        [supplyRequirement snapshot.transfer.transferId]
    sourceDataLineage := lineage snapshot true true false }

/-- `evaluate_response_options`. -/
def evaluateResponseOptions (snapshot : OperationalSnapshot) :
    Except AnalysisError (List ResponseOption) := do
  let outcomes ← optionOutcomes snapshot
  let available ← resequenceAvailable snapshot
  pure
    [noMitigationOption snapshot outcomes, expediteOption snapshot outcomes,
      transferOption snapshot outcomes, resequenceOption snapshot outcomes available,
      betaOption snapshot outcomes, combinedOption snapshot outcomes available]

/-- `calculate_option_outcome`. -/
def calculateOptionOutcome (snapshot : OperationalSnapshot) (optionId : String) :
    Except AnalysisError PredictedOutcome := do
  let options ← evaluateResponseOptions snapshot
  match options.find? fun o => o.optionId = optionId with
  | none => throw (.valueError s!"Unknown response option: {optionId}")
  | some option =>
    match option.predicted with
    | none => throw (.valueError s!"Response option {optionId} has no predicted outcome")
    | some predicted => pure predicted

end SupplyResponse
