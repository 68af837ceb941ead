/-
Operational records and the Operational Snapshot of a case.

An analysis is bound to its case's stored snapshot through the canonical text
of the snapshot (`canonicalOperationalSnapshot`).  A JSON text is represented
by the value it denotes: collections in the order of their stable ids, money
with two places.
-/
import SupplyResponse.Domain.Common

namespace SupplyResponse

/-- A calendar date, as the proleptic Gregorian ordinal. -/
abbrev Date := ℤ

inductive QualificationStatus
  | approved
  | pending
  | notApproved
  | conditional
  deriving DecidableEq, Repr

structure InventoryPosition where
  inventoryId : String
  partId : String
  plantId : String
  onHand : Nat
  qualityHold : Nat
  protectedAllocation : Nat
  deriving DecidableEq

inductive ProductionOrderStatus
  | open
  | released
  deriving DecidableEq, Repr

structure ProductionOrder where
  productionOrderId : String
  productId : String
  plantId : String
  quantity : Nat
  dueDate : Date
  status : ProductionOrderStatus
  componentDemand : Option Nat
  customerOrderId : Option String
  customerPriority : Option Nat
  customerRevenue : Option Money
  customerMargin : Option Money
  deriving DecidableEq

structure CustomerOrder where
  customerOrderLineId : String
  customerId : String
  productId : String
  plantId : String
  productionOrderId : Option String
  quantity : Nat
  dueDate : Date
  unitRevenue : Money
  unitMargin : Money
  deriving DecidableEq

structure SupplyReceiptOption where
  receiptId : String
  supplierId : String
  partId : String
  plantId : String
  quantity : Nat
  dueDate : Date
  incrementalCostPerUnit : Money
  deriving DecidableEq

structure InventoryTransfer where
  transferId : String
  partId : String
  sourcePlantId : String
  destinationPlantId : String
  quantity : Nat
  dispatchDate : Date
  arrivalDate : Date
  incrementalCostPerUnit : Money
  deriving DecidableEq

structure QualityQualification where
  qualificationId : String
  supplierId : String
  partId : String
  status : QualificationStatus
  effectiveDate : Option Date
  evidenceRef : String
  auditComplete : Option Bool
  firstArticleComplete : Option Bool
  expectedDecisionDate : Option Date
  deriving DecidableEq

structure Disruption where
  disruptionId : String
  supplierId : String
  poLineId : String
  partId : String
  plantId : String
  originalQuantity : Nat
  originalDueDate : Date
  partialQuantity : Nat
  partialDueDate : Option Date
  recoveryDate : Option Date
  sourceRef : String
  deriving DecidableEq

structure OperationalSnapshot where
  caseId : String
  runtimeMode : RuntimeMode
  scenarioEffectiveTime : Instant
  analysisHorizonStart : Instant
  analysisHorizonEnd : Date
  inventoryPositions : List InventoryPosition
  productionOrders : List ProductionOrder
  customerOrders : List CustomerOrder
  disruption : Disruption
  alphaExpedite : Option SupplyReceiptOption
  transfer : InventoryTransfer
  betaQualification : QualityQualification
  deriving DecidableEq

/-! ### Model validation -/

/-- The value is absent or not negative. -/
def NonnegIfPresent (value : Option Money) : Prop := ∀ v ∈ value, 0 ≤ v

structure ProductionOrder.Valid (o : ProductionOrder) : Prop where
  quantity : 0 < o.quantity
  componentDemand : ∀ d ∈ o.componentDemand, 0 < d
  customerPriority : ∀ p ∈ o.customerPriority, 1 ≤ p ∧ p ≤ 5
  customerRevenue : NonnegIfPresent o.customerRevenue
  customerMargin : NonnegIfPresent o.customerMargin

structure CustomerOrder.Valid (o : CustomerOrder) : Prop where
  quantity : 0 < o.quantity
  unitRevenue : 0 ≤ o.unitRevenue
  unitMargin : 0 ≤ o.unitMargin

structure SupplyReceiptOption.Valid (o : SupplyReceiptOption) : Prop where
  quantity : 0 < o.quantity
  incrementalCostPerUnit : 0 ≤ o.incrementalCostPerUnit

structure InventoryTransfer.Valid (t : InventoryTransfer) : Prop where
  quantity : 0 < t.quantity
  incrementalCostPerUnit : 0 ≤ t.incrementalCostPerUnit

/-- The bounds that constructing a snapshot from its records checks; amounts
without a sign are natural numbers. -/
structure OperationalSnapshot.Valid (s : OperationalSnapshot) : Prop where
  productionOrders : ∀ o ∈ s.productionOrders, o.Valid
  customerOrders : ∀ o ∈ s.customerOrders, o.Valid
  originalQuantity : 0 < s.disruption.originalQuantity
  alphaExpedite : ∀ a ∈ s.alphaExpedite, a.Valid
  transfer : s.transfer.Valid

/-! ### JSON texts -/

def ProductionOrder.serialized (o : ProductionOrder) : ProductionOrder :=
  { o with
    customerRevenue := o.customerRevenue.map Money.serialized
    customerMargin := o.customerMargin.map Money.serialized }

def CustomerOrder.serialized (o : CustomerOrder) : CustomerOrder :=
  { o with unitRevenue := o.unitRevenue.serialized, unitMargin := o.unitMargin.serialized }

def SupplyReceiptOption.serialized (o : SupplyReceiptOption) : SupplyReceiptOption :=
  { o with incrementalCostPerUnit := o.incrementalCostPerUnit.serialized }

def InventoryTransfer.serialized (t : InventoryTransfer) : InventoryTransfer :=
  { t with incrementalCostPerUnit := t.incrementalCostPerUnit.serialized }

/-- The snapshot as its JSON text denotes it. -/
def OperationalSnapshot.serialized (s : OperationalSnapshot) : OperationalSnapshot :=
  { s with
    productionOrders := s.productionOrders.map ProductionOrder.serialized
    customerOrders := s.customerOrders.map CustomerOrder.serialized
    alphaExpedite := s.alphaExpedite.map SupplyReceiptOption.serialized
    transfer := s.transfer.serialized }

/-- Sort a collection by its stable id, which must not occur twice. -/
def sortedByStableId {α : Type} (fieldName : String) (stableId : α → String) (items : List α) :
    Except String (List α) :=
  if (items.map stableId).Nodup then
    .ok (items.insertionSort fun a b => stableId a ≤ stableId b)
  else .error s!"duplicate operational {fieldName} stable ID"

/-- `canonical_operational_snapshot`; the error is the text of its `ValueError`. -/
def canonicalOperationalSnapshot (snapshot : OperationalSnapshot) :
    Except String OperationalSnapshot := do
  let payload := snapshot.serialized
  let inventory ← sortedByStableId "inventory_positions" InventoryPosition.inventoryId
    payload.inventoryPositions
  let production ← sortedByStableId "production_orders" ProductionOrder.productionOrderId
    payload.productionOrders
  let customer ← sortedByStableId "customer_orders" CustomerOrder.customerOrderLineId
    payload.customerOrders
  pure { payload with
    inventoryPositions := inventory
    productionOrders := production
    customerOrders := customer }

end SupplyResponse
