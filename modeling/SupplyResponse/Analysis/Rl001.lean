/-
The demonstration snapshot RL-001 (`data/synthetic/rl001.py`).
-/
import SupplyResponse.Analysis.Options

namespace SupplyResponse

/-- `SCENARIO_EFFECTIVE_TIME`: September 1, 2026, 9:00 in Chicago. -/
def scenarioEffectiveTime : Instant := 1788271200000000

/-- The two production orders of RL-001. -/
def rl001ProductionOrders : List ProductionOrder :=
  [{ productionOrderId := "RL-MO-DEMO-1"
     productId := "RL-PROD-00000"
     plantId := "RL-PLANT-CHI"
     quantity := 2500
     dueDate := 739864
     status := .open
     componentDemand := some 5000
     customerOrderId := some "RL-CO-DEMO-1"
     customerPriority := some 3
     customerRevenue := some 375000
     customerMargin := some 125000 },
   { productionOrderId := "RL-MO-DEMO-2"
     productId := "RL-PROD-00000"
     plantId := "RL-PLANT-CHI"
     quantity := 2900
     dueDate := 739867
     status := .open
     componentDemand := some 5800
     customerOrderId := some "RL-CO-DEMO-2"
     customerPriority := some 1
     customerRevenue := some 580000
     customerMargin := some 203000 }]

def rl001CustomerOrders : List CustomerOrder :=
  [{ customerOrderLineId := "RL-CO-DEMO-1"
     customerId := "RL-CUST-DEMO-1"
     productId := "RL-PROD-00000"
     plantId := "RL-PLANT-CHI"
     productionOrderId := some "RL-MO-DEMO-1"
     quantity := 2500
     dueDate := 739864
     unitRevenue := 150
     unitMargin := 50 },
   { customerOrderLineId := "RL-CO-DEMO-2"
     customerId := "RL-CUST-DEMO-2"
     productId := "RL-PROD-00000"
     plantId := "RL-PLANT-CHI"
     productionOrderId := some "RL-MO-DEMO-2"
     quantity := 2900
     dueDate := 739867
     unitRevenue := 200
     unitMargin := 70 }]

def rl001InventoryPositions : List InventoryPosition :=
  [⟨"RL-INV-DEMO-CHI", "RL-MAT-10247", "RL-PLANT-CHI", 4500, 200, 300⟩,
   ⟨"RL-INV-DEMO-DAL", "RL-MAT-10247", "RL-PLANT-DAL", 1800, 0, 300⟩]

/-- `OperationalSnapshot.rl001`. -/
def OperationalSnapshot.rl001 (caseId : String) (runtimeMode : RuntimeMode) :
    OperationalSnapshot where
  caseId := caseId
  runtimeMode := runtimeMode
  scenarioEffectiveTime := SupplyResponse.scenarioEffectiveTime
  analysisHorizonStart := SupplyResponse.scenarioEffectiveTime
  analysisHorizonEnd := 739867
  inventoryPositions := rl001InventoryPositions
  productionOrders := rl001ProductionOrders
  customerOrders := rl001CustomerOrders
  disruption :=
    { disruptionId := "RL-DISRUPTION-001"
      supplierId := "RL-SUP-ALPHA"
      poLineId := "RL-PO-000001"
      partId := "RL-MAT-10247"
      plantId := "RL-PLANT-CHI"
      originalQuantity := 8000
      originalDueDate := 739862
      partialQuantity := 0
      partialDueDate := none
      recoveryDate := none
      sourceRef := "RL-001" }
  alphaExpedite := some
    { receiptId := "RL-ALPHA-OPTIONAL-3000"
      supplierId := "RL-SUP-ALPHA"
      partId := "RL-MAT-10247"
      plantId := "RL-PLANT-CHI"
      quantity := 3000
      dueDate := 739865
      incrementalCostPerUnit := 15 / 2 }
  transfer :=
    { transferId := "RL-TRANSFER-DAL-CHI-1500"
      partId := "RL-MAT-10247"
      sourcePlantId := "RL-PLANT-DAL"
      destinationPlantId := "RL-PLANT-CHI"
      quantity := 1500
      dispatchDate := 739863
      arrivalDate := 739864
      incrementalCostPerUnit := 3 / 2 }
  betaQualification :=
    { qualificationId := "RL-QUAL-BETA"
      supplierId := "RL-SUP-BETA"
      partId := "RL-MAT-10247"
      status := .pending
      effectiveDate := none
      evidenceRef := "RL-QUALITY-001"
      auditComplete := some false
      firstArticleComplete := some false
      expectedDecisionDate := some 739874 }

theorem OperationalSnapshot.rl001_valid (caseId : String) (runtimeMode : RuntimeMode) :
    (OperationalSnapshot.rl001 caseId runtimeMode).Valid where
  productionOrders := by
    intro o ho
    rcases List.mem_pair.mp ho with rfl | rfl
    all_goals
      refine ⟨by decide, ?_, ?_, ?_, ?_⟩
      all_goals
        intro v hv
        obtain rfl := Option.some.inj hv
        norm_num
  customerOrders := by
    intro o ho
    rcases List.mem_pair.mp ho with rfl | rfl
    all_goals exact ⟨by decide, by norm_num, by norm_num⟩
  originalQuantity := by norm_num [OperationalSnapshot.rl001]
  alphaExpedite := by
    intro a ha
    obtain rfl := Option.some.inj ha
    exact ⟨by decide, by norm_num⟩
  transfer := ⟨by norm_num [OperationalSnapshot.rl001], by norm_num [OperationalSnapshot.rl001]⟩

/-- The predicted results of the demonstration contract. -/
example : (optionOutcomes (.rl001 "RL-CASE-1" .fallback)).map (fun o =>
      [o.noMitigation, o.expedite, o.transfer, o.resequence, o.combined].map
        fun p => (p.uncoveredPartDemand, p.otifLossPercentage, p.revenueAtRisk, p.marginAtRisk,
          p.responseCost)) =
    .ok [(6800, 100, 955000, 328000, 0), (3800, 100, 955000, 328000, 22500),
      (5300, 50, 580000, 203000, 2250), (6800, 100, 955000, 328000, 0),
      (2300, 50, 375000, 125000, 24750)] := by
  decide +kernel

end SupplyResponse
