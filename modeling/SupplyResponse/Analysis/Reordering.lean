/-
The exposure to a shortage does not depend on the order of what it is calculated from.

* `Reordered` — the same records, listed in another order;
* `Reordered.affectedProduction_eq` — the two walks find the same days and orders;
* `amountAtRisk_perm` — amounts at risk whose sums are exact;
* `calculateExposure_agrees` — the projection and the affected orders agree, and every
  reordered request has the same result.
-/
import Mathlib.Data.List.Perm.Subperm
import Mathlib.Data.String.Basic
import SupplyResponse.Analysis.Agreement

namespace SupplyResponse

open Ledger

/-! ### Sorted lists -/

/-- Sorting forgets the order and the repetitions. -/
theorem sorted_dedup_eq {α : Type} [LinearOrder α] {l l' : List α} (h : l.Perm l') :
    l.dedup.insertionSort (· ≤ ·) = l'.dedup.insertionSort (· ≤ ·) := by
  refine List.Perm.eq_of_pairwise (fun _ _ _ _ hab hba => le_antisymm hab hba)
    (List.pairwise_insertionSort _ _) (List.pairwise_insertionSort _ _) ?_
  exact (List.perm_insertionSort _ _).trans (h.dedup.trans (List.perm_insertionSort _ _).symm)

/-- The entry with a key that only one entry has. -/
theorem find?_eq_of_perm {α κ : Type} [DecidableEq κ] {key : α → κ} {l l' : List α}
    (h : l.Perm l') (hkeys : (l.map key).Nodup) (k : κ) :
    (l.find? fun a => key a = k) = l'.find? fun a => key a = k := by
  cases hfind : l'.find? fun a => key a = k with
  | none =>
    rw [List.find?_eq_none] at hfind ⊢
    exact fun a ha => hfind a (h.mem_iff.mp ha)
  | some a =>
    have ha := h.mem_iff.mpr (List.mem_of_find?_eq_some hfind)
    have hkey := List.find?_some hfind
    rw [decide_eq_true_eq] at hkey
    cases hother : l.find? fun a => key a = k with
    | none => exact absurd (decide_eq_true hkey) (List.find?_eq_none.mp hother a ha)
    | some b =>
      have hb := List.mem_of_find?_eq_some hother
      have hkey' := List.find?_some hother
      rw [decide_eq_true_eq] at hkey'
      rw [List.inj_on_of_nodup_map hkeys hb ha (hkey'.trans hkey.symm)]

/-! ### The walks over the same days -/

theorem projectDays_congr {receipts receipts' transfers transfers' demand demand' :
      List TimedQuantity} (hreceipts : SameSupplies receipts receipts')
    (htransfers : SameSupplies transfers transfers') (hdemand : SameSupplies demand demand')
    (balance : ℤ) (days : List Date) :
    projectDays receipts transfers demand balance days =
      projectDays receipts' transfers' demand' balance days := by
  induction days generalizing balance with
  | nil => rfl
  | cons day days ih =>
    rw [projectDays, projectDays, hreceipts day, htransfers day, hdemand day, ih]

theorem walkDays_congr {receipts receipts' transfers transfers' : List TimedQuantity}
    (hreceipts : SameSupplies receipts receipts') (htransfers : SameSupplies transfers transfers')
    (need : ProductionOrder → ℤ) (orders : Date → List ProductionOrder) (balance : ℤ)
    (days : List Date) :
    walkDays receipts transfers need orders balance days =
      walkDays receipts' transfers' need orders balance days := by
  induction days generalizing balance with
  | nil => rfl
  | cons day days ih =>
    rw [walkDays, walkDays]
    dsimp only
    rw [hreceipts day, htransfers day, ih]

/-! ### Reordered requests -/

namespace ExposureRequest

/-- The same records, listed in another order. -/
structure Reordered (request request' : ExposureRequest) : Prop where
  analysisId : request'.analysisId = request.analysisId
  partId : request'.partId = request.partId
  plantId : request'.plantId = request.plantId
  inventoryPositions : request'.inventoryPositions.Perm request.inventoryPositions
  receipts : request'.receipts.Perm request.receipts
  transfers : request'.transfers.Perm request.transfers
  bomComponents : request'.bomComponents.Perm request.bomComponents
  productionOrders : request'.productionOrders.Perm request.productionOrders
  customerOrders : request'.customerOrders.Perm request.customerOrders
  responseCost : request'.responseCost = request.responseCost
  assumptions : request'.assumptions = request.assumptions
  remainingUncertainty : request'.remainingUncertainty = request.remainingUncertainty

namespace Reordered

variable {request request' : ExposureRequest}

theorem distinctIds (h : request.Reordered request') (hids : request.DistinctIds) :
    request'.DistinctIds :=
  (h.productionOrders.map _).nodup_iff.mpr hids

theorem perm_relevantPositions (h : request.Reordered request') :
    request'.relevantPositions.Perm request.relevantPositions := by
  unfold relevantPositions
  rw [h.partId, h.plantId]
  exact h.inventoryPositions.filter _

theorem usable_eq (h : request.Reordered request') : request'.usable = request.usable :=
  (h.perm_relevantPositions.map _).sum_eq

theorem quantityPerProduct_eq (h : request.Reordered request') (productId : String) :
    quantityPerProduct request'.partId request'.bomComponents productId =
      quantityPerProduct request.partId request.bomComponents productId := by
  rw [h.partId]
  exact ((h.bomComponents.filter _).map _).sum_eq

theorem perm_demand (h : request.Reordered request') : request'.demand.Perm request.demand := by
  unfold demand componentDemandForPart
  simp only [h.quantityPerProduct_eq, h.plantId]
  exact (h.productionOrders.filter _).map _

theorem projection_eq (h : request.Reordered request') :
    request'.projection = request.projection := by
  unfold projection projectInventory
  rw [h.usable_eq, projectDays_congr (sameSupplies_of_perm h.receipts)
    (sameSupplies_of_perm h.transfers) (sameSupplies_of_perm h.perm_demand)]
  refine congrArg _ (sorted_dedup_eq ?_)
  exact ((h.receipts.append h.transfers).append h.perm_demand).map _

theorem stockoutPoints_eq (h : request.Reordered request') :
    request'.stockoutPoints = request.stockoutPoints := by
  unfold stockoutPoints
  rw [h.projection_eq]

theorem demandByOrder_eq (h : request.Reordered request') (hids : request.DistinctIds)
    (id : String) : demandByOrder request'.demand id = demandByOrder request.demand id := by
  have hkeys : (request'.demand.reverse.map TimedQuantity.sourceId).Nodup := by
    rw [List.map_reverse, List.nodup_reverse, demand_eq, List.map_map]
    exact (h.distinctIds hids).sublist (List.filter_sublist.map _)
  have hperm : request'.demand.reverse.Perm request.demand.reverse :=
    (List.reverse_perm _).trans (h.perm_demand.trans (List.reverse_perm _).symm)
  unfold demandByOrder
  rw [find?_eq_of_perm hperm hkeys]

theorem need_eq (h : request.Reordered request') (hids : request.DistinctIds) :
    request'.need = request.need := by
  funext order
  unfold need
  rw [h.demandByOrder_eq hids]

/-- The orders of a day are sorted by their ids, and no two have one id. -/
theorem ordersOn_eq (h : request.Reordered request') (hids : request.DistinctIds) (day : Date) :
    ordersOn request'.demand request'.productionOrders day =
      ordersOn request.demand request.productionOrders day := by
  refine List.Perm.eq_of_pairwise (fun _ _ _ _ hab hba => absurd hab hba.asymm)
    (pairwise_ordersOn (h.distinctIds hids) day) (pairwise_ordersOn hids day) ?_
  unfold ordersOn
  simp only [h.demandByOrder_eq hids]
  exact (List.perm_insertionSort _ _).trans ((h.productionOrders.filter _).trans
    (List.perm_insertionSort _ _).symm)

theorem orderDays_eq (h : request.Reordered request') (hids : request.DistinctIds) :
    request'.orderDays = request.orderDays := by
  unfold orderDays
  simp only [h.demandByOrder_eq hids]
  refine sorted_dedup_eq ?_
  exact (((h.productionOrders.filter _).map _).append (h.receipts.map _)).append
    (h.transfers.map _)

theorem affectedProduction_eq (h : request.Reordered request') (hids : request.DistinctIds) :
    request'.affectedProduction = request.affectedProduction := by
  have horders : ordersOn request'.demand request'.productionOrders =
      ordersOn request.demand request.productionOrders := funext (h.ordersOn_eq hids)
  unfold affectedProduction
  rw [h.usable_eq, h.need_eq hids, h.orderDays_eq hids, horders]
  exact walkDays_congr (sameSupplies_of_perm h.receipts) (sameSupplies_of_perm h.transfers) _ _ _ _

theorem perm_affectedCustomer (h : request.Reordered request') (hids : request.DistinctIds) :
    request'.affectedCustomer.Perm request.affectedCustomer := by
  unfold affectedCustomer
  rw [h.affectedProduction_eq hids]
  exact h.customerOrders.filter _

theorem sourceIds_eq (h : request.Reordered request') : request'.sourceIds = request.sourceIds := by
  refine sorted_dedup_eq ?_
  exact (h.perm_relevantPositions.map _).append
    (((h.receipts.append h.transfers).append h.perm_demand).map _)

end Reordered

end ExposureRequest

/-! ### The amounts at risk -/

/-- `o.unit_amount * o.quantity`. -/
def lineAmount (unitAmount : CustomerOrder → Money) (order : CustomerOrder) : Option Money :=
  decimalContext.mul (unitAmount order) order.quantity

/-- Whichever of the lines are added up, nothing is rounded. -/
def SumsExact (unitAmount : CustomerOrder → Money) (orders : List CustomerOrder) : Prop :=
  ∀ part : List CustomerOrder, part.Subperm orders →
    decimalContext.IsResult (part.map fun order => (lineAmount unitAmount order).getD 0).sum

/-- It is enough to add up the lines in the order in which they are listed. -/
theorem sumsExact_iff {unitAmount : CustomerOrder → Money} {orders : List CustomerOrder} :
    SumsExact unitAmount orders ↔ ∀ part ∈ orders.sublists,
      decimalContext.IsResult (part.map fun order => (lineAmount unitAmount order).getD 0).sum := by
  constructor
  · intro h part hpart
    exact h part (List.mem_sublists.mp hpart).subperm
  · rintro h part ⟨listed, hperm, hsublist⟩
    rw [← (hperm.map _).sum_eq]
    exact h listed (List.mem_sublists.mpr hsublist)

instance (unitAmount : CustomerOrder → Money) (orders : List CustomerOrder) :
    Decidable (SumsExact unitAmount orders) :=
  haveI : DecidablePred fun part : List CustomerOrder => decimalContext.IsResult
      (part.map fun order => (lineAmount unitAmount order).getD 0).sum :=
    fun _ => inferInstanceAs (Decidable (_ = _))
  decidable_of_iff _ sumsExact_iff.symm

section amounts

variable {unitAmount : CustomerOrder → Money} {orders orders' : List CustomerOrder}

theorem mapM_lineAmount (h : ∀ order ∈ orders, lineAmount unitAmount order ≠ none) :
    (orders.mapM fun o => decimalResult (decimalContext.mul (unitAmount o) o.quantity)) =
      .ok (orders.map fun order => (lineAmount unitAmount order).getD 0) := by
  induction orders with
  | nil => rfl
  | cons order orders ih =>
    obtain ⟨amount, hamount⟩ := Option.ne_none_iff_exists'.mp (h order (List.mem_cons_self ..))
    have hfirst : decimalContext.mul (unitAmount order) order.quantity = some amount := hamount
    rw [List.mapM_cons, hfirst, ih fun o ho => h o (List.mem_cons_of_mem _ ho), List.map_cons,
      hamount]
    rfl

/-- A line whose amount is too large ends the calculation. -/
theorem mapM_lineAmount_overflow (h : ∃ order ∈ orders, lineAmount unitAmount order = none) :
    (orders.mapM fun o => decimalResult (decimalContext.mul (unitAmount o) o.quantity)) =
      .error .overflow := by
  induction orders with
  | nil => exact absurd h (by simp)
  | cons order orders ih =>
    rw [List.mapM_cons]
    cases hamount : lineAmount unitAmount order with
    | none =>
      have hfirst : decimalContext.mul (unitAmount order) order.quantity = none := hamount
      rw [hfirst]
      rfl
    | some amount =>
      have hfirst : decimalContext.mul (unitAmount order) order.quantity = some amount := hamount
      obtain ⟨other, hother, hnone⟩ := h
      rcases List.mem_cons.mp hother with rfl | hrest
      · rw [hamount] at hnone
        exact nomatch hnone
      · rw [hfirst, ih ⟨other, hrest, hnone⟩]
        rfl

/-- Sums that are exact do not depend on the order of their summands. -/
theorem amountAtRisk_perm (hexact : SumsExact unitAmount orders) (h : orders'.Perm orders) :
    amountAtRisk unitAmount orders' = amountAtRisk unitAmount orders := by
  by_cases hall : ∀ order ∈ orders, lineAmount unitAmount order ≠ none
  · have hsum : ∀ listed : List CustomerOrder, listed.Perm orders →
        amountAtRisk unitAmount listed =
          .ok (listed.map fun order => (lineAmount unitAmount order).getD 0).sum := by
      intro listed hlisted
      have hpart : ∀ ys, ys <+: (listed.map fun order => (lineAmount unitAmount order).getD 0) →
          decimalContext.IsResult (0 + ys.sum) := by
        intro ys hys
        obtain ⟨part, hfirst, rfl⟩ := List.prefix_map_iff.mp hys
        rw [zero_add]
        exact hexact part (hfirst.sublist.subperm.trans hlisted.subperm)
      unfold amountAtRisk
      rw [mapM_lineAmount fun o ho => hall o (hlisted.mem_iff.mp ho)]
      show decimalResult (decimalContext.sumFrom 0 _) = _
      rw [decimalContext.sumFrom_eq_sum hpart, zero_add]
      rfl
    rw [hsum orders' h, hsum orders (.refl _), (h.map _).sum_eq]
  · push Not at hall
    obtain ⟨order, horder, hnone⟩ := hall
    unfold amountAtRisk
    rw [mapM_lineAmount_overflow ⟨order, horder, hnone⟩,
      mapM_lineAmount_overflow ⟨order, h.mem_iff.mpr horder, hnone⟩]

end amounts

/-! ### The result -/

/-- The same result, with the customer lines listed in another order. -/
def ExposureResult.Relisted (result result' : ExposureResult) : Prop :=
  result'.affectedCustomerOrderLineIds.Perm result.affectedCustomerOrderLineIds ∧
    result = { result' with
      affectedCustomerOrderLineIds := result.affectedCustomerOrderLineIds }

/-- Both calculations end alike. -/
def SameCalculation : Except AnalysisError ExposureResult → Except AnalysisError ExposureResult →
    Prop
  | .ok result, .ok result' => result.Relisted result'
  | .error e, .error e' => e = e'
  | _, _ => False

namespace ExposureRequest

variable {request request' : ExposureRequest}

/-- No sum of amounts of the affected lines is rounded. -/
def AmountsExact (request : ExposureRequest) : Prop :=
  SumsExact CustomerOrder.unitRevenue request.affectedCustomer ∧
    SumsExact CustomerOrder.unitMargin request.affectedCustomer

/-- A reordered request has the same result, but for the amounts and the listing of the
customer lines. -/
theorem Reordered.resultWith_relisted (h : request.Reordered request')
    (hids : request.DistinctIds) (now : Instant) (revenue margin : Money) :
    (request.resultWith now revenue margin).Relisted (request'.resultWith now revenue margin) := by
  have hcustomer := h.perm_affectedCustomer hids
  refine ⟨hcustomer.map _, ?_⟩
  have hfirst : request'.firstStockout = request.firstStockout := by
    unfold firstStockout
    rw [h.stockoutPoints_eq]
  have hshortage : request'.maximumShortage = request.maximumShortage := by
    unfold maximumShortage
    rw [h.stockoutPoints_eq, h.projection_eq]
  unfold resultWith
  rw [h.sourceIds_eq, h.usable_eq, h.projection_eq, hfirst, hshortage,
    h.affectedProduction_eq hids, hcustomer.length_eq, h.analysisId, h.assumptions,
    h.responseCost, h.remainingUncertainty]

/-- Where the customer lines keep their order, so does the result. -/
theorem Reordered.calculateExposure_eq (h : request.Reordered request')
    (hids : request.DistinctIds) (hcustomers : request'.customerOrders = request.customerOrders)
    (now : Instant) : calculateExposure request' now = calculateExposure request now := by
  have hcustomer : request'.affectedCustomer = request.affectedCustomer := by
    unfold affectedCustomer
    rw [h.affectedProduction_eq hids, hcustomers]
  have hresult : ∀ revenue margin,
      request'.resultWith now revenue margin = request.resultWith now revenue margin := by
    intro revenue margin
    rw [(h.resultWith_relisted hids now revenue margin).2]
    unfold resultWith
    rw [hcustomer]
  unfold calculateExposure
  simp only [hcustomer, hresult]

/-- Where no sum is rounded, every order gives the same result. -/
theorem Reordered.calculateExposure_relisted (h : request.Reordered request')
    (hids : request.DistinctIds) (hexact : request.AmountsExact) (now : Instant) :
    SameCalculation (calculateExposure request now) (calculateExposure request' now) := by
  have hcustomer := h.perm_affectedCustomer hids
  unfold calculateExposure
  rw [amountAtRisk_perm hexact.1 hcustomer, amountAtRisk_perm hexact.2 hcustomer]
  cases amountAtRisk CustomerOrder.unitRevenue request.affectedCustomer with
  | error e => exact rfl
  | ok revenue =>
    cases amountAtRisk CustomerOrder.unitMargin request.affectedCustomer with
    | error e => exact rfl
    | ok margin => exact h.resultWith_relisted hids now revenue margin

end ExposureRequest

/-- The projection and the affected orders agree, and the order of the records matters for
the listing of the customer lines and the rounding of their amounts only. -/
theorem calculateExposure_agrees (request : ExposureRequest) (now : Instant)
    (hsupplies : request.SuppliesNonneg) (hids : request.DistinctIds) :
    (∀ result, calculateExposure request now = .ok result → request.Agrees result) ∧
    ∀ request', request.Reordered request' →
      (request'.customerOrders = request.customerOrders →
        calculateExposure request' now = calculateExposure request now) ∧
      (request.AmountsExact →
        SameCalculation (calculateExposure request now) (calculateExposure request' now)) ∧
      ∀ result result', calculateExposure request now = .ok result →
        calculateExposure request' now = .ok result' →
          result.Relisted { result' with
            revenueAtRisk := result.revenueAtRisk
            marginAtRisk := result.marginAtRisk } := by
  refine ⟨fun result h => ExposureRequest.agrees_of_calculateExposure hsupplies hids h,
    fun request' hreordered => ⟨fun hcustomers => hreordered.calculateExposure_eq hids hcustomers now,
      fun hexact => hreordered.calculateExposure_relisted hids hexact now, ?_⟩⟩
  intro result result' h h'
  obtain ⟨revenue, -, margin, -, rfl⟩ := ExposureRequest.calculateExposure_eq_ok.mp h
  obtain ⟨revenue', -, margin', -, rfl⟩ := ExposureRequest.calculateExposure_eq_ok.mp h'
  exact hreordered.resultWith_relisted hids now revenue margin

/-! ### A shortage of one part -/

def sampleLine (customerOrderLineId : String) (unitRevenue : Money) : CustomerOrder where
  customerOrderLineId := customerOrderLineId
  customerId := "RL-C"
  productId := "RL-PROD"
  plantId := "RL-PLANT"
  productionOrderId := some "RL-MO-1"
  quantity := 1
  dueDate := 739864
  unitRevenue := unitRevenue
  unitMargin := 4

def sampleProductionOrder (productionOrderId : String) (quantity : ℕ) : ProductionOrder where
  productionOrderId := productionOrderId
  productId := "RL-PROD"
  plantId := "RL-PLANT"
  quantity := quantity
  dueDate := 739864
  status := .open
  componentDemand := none
  customerOrderId := none
  customerPriority := none
  customerRevenue := none
  customerMargin := none

/-- A hundred units, of which two orders of one day need 150 and 30. -/
def sampleExposure (productionOrders : List ProductionOrder) (customerOrders : List CustomerOrder) :
    ExposureRequest where
  analysisId := "RL-ANALYSIS-EXPOSURE"
  partId := "RL-MAT"
  plantId := "RL-PLANT"
  inventoryPositions := [⟨"RL-I", "RL-MAT", "RL-PLANT", 100, 0, 0⟩]
  receipts := [⟨739865, 25, "RL-R"⟩]
  transfers := []
  bomComponents := [⟨"RL-B", "RL-PROD", "RL-MAT", 1⟩]
  productionOrders := productionOrders
  customerOrders := customerOrders

theorem sampleExposure_suppliesNonneg (productionOrders : List ProductionOrder)
    (customerOrders : List CustomerOrder) :
    (sampleExposure productionOrders customerOrders).SuppliesNonneg := by
  refine ⟨fun s hs => ?_, fun s hs => absurd hs List.not_mem_nil⟩
  obtain rfl := List.mem_singleton.mp hs
  decide

theorem calculateExposure_agrees_sample :
    (∃ result,
      calculateExposure (sampleExposure
        [sampleProductionOrder "RL-MO-2" 30, sampleProductionOrder "RL-MO-1" 150]
        [sampleLine "RL-CO-1" 10, sampleLine "RL-CO-2" (1 / 2)]) 0 = .ok result ∧
      result.firstStockoutDate = some 739864 ∧ result.maximumShortageQuantity = 80 ∧
      result.affectedProductionOrderIds = ["RL-MO-1", "RL-MO-2"] ∧
      (sampleExposure
        [sampleProductionOrder "RL-MO-2" 30, sampleProductionOrder "RL-MO-1" 150]
        [sampleLine "RL-CO-1" 10, sampleLine "RL-CO-2" (1 / 2)]).Agrees result) ∧
    SameCalculation
      (calculateExposure (sampleExposure
        [sampleProductionOrder "RL-MO-2" 30, sampleProductionOrder "RL-MO-1" 150]
        [sampleLine "RL-CO-1" 10, sampleLine "RL-CO-2" (1 / 2)]) 0)
      (calculateExposure (sampleExposure
        [sampleProductionOrder "RL-MO-1" 150, sampleProductionOrder "RL-MO-2" 30]
        [sampleLine "RL-CO-2" (1 / 2), sampleLine "RL-CO-1" 10]) 0) := by
  have hagrees := calculateExposure_agrees (sampleExposure
    [sampleProductionOrder "RL-MO-2" 30, sampleProductionOrder "RL-MO-1" 150]
    [sampleLine "RL-CO-1" 10, sampleLine "RL-CO-2" (1 / 2)]) 0
    (sampleExposure_suppliesNonneg _ _)
    (by show List.Nodup ["RL-MO-2", "RL-MO-1"]; decide)
  refine ⟨?_, (hagrees.2 _ ?_).2.1 ⟨by decide +kernel, by decide +kernel⟩⟩
  · have hfields : (calculateExposure (sampleExposure
        [sampleProductionOrder "RL-MO-2" 30, sampleProductionOrder "RL-MO-1" 150]
        [sampleLine "RL-CO-1" 10, sampleLine "RL-CO-2" (1 / 2)]) 0).toOption.any (fun result =>
          result.firstStockoutDate = some 739864 ∧ result.maximumShortageQuantity = 80 ∧
            result.affectedProductionOrderIds = ["RL-MO-1", "RL-MO-2"]) = true := by
      decide +kernel
    revert hfields hagrees
    cases calculateExposure (sampleExposure
        [sampleProductionOrder "RL-MO-2" 30, sampleProductionOrder "RL-MO-1" 150]
        [sampleLine "RL-CO-1" 10, sampleLine "RL-CO-2" (1 / 2)]) 0 with
    | error e => exact fun _ hfields => nomatch hfields
    | ok result =>
      intro hagrees hfields
      obtain ⟨hfirst, hshortage, haffected⟩ := of_decide_eq_true hfields
      exact ⟨result, rfl, hfirst, hshortage, haffected, hagrees.1 result rfl⟩
  · exact { analysisId := rfl, partId := rfl, plantId := rfl, inventoryPositions := .refl _,
            receipts := .refl _, transfers := .refl _, bomComponents := .refl _,
            productionOrders := List.Perm.swap _ _ _, customerOrders := List.Perm.swap _ _ _,
            responseCost := rfl, assumptions := rfl, remainingUncertainty := rfl }

theorem eq_ok_of_toOption {ε α : Type} {x : Except ε α} {a : α} (h : x.toOption = some a) :
    x = .ok a := by
  cases x with
  | error e => exact nomatch h
  | ok b => exact congrArg _ (Option.some.inj h)

def longLine : CustomerOrder := sampleLine "RL-CO-1" (10 ^ 28 - 1)

def shortLines : List CustomerOrder := [sampleLine "RL-CO-2" (2 / 5), sampleLine "RL-CO-3" (2 / 5)]

/-- An amount of 28 digits, before and after two amounts that its rounding drops. -/
theorem revenue_follows_listing :
    ¬ ∀ (request request' : ExposureRequest) (now : Instant) (result result' : ExposureResult),
      request.SuppliesNonneg → request.DistinctIds → request.Reordered request' →
      calculateExposure request now = .ok result → calculateExposure request' now = .ok result' →
      result.Relisted result' := by
  intro h
  have hrevenue : (calculateExposure (sampleExposure [sampleProductionOrder "RL-MO-1" 150]
      ([longLine] ++ shortLines)) 0).toOption.map ExposureResult.revenueAtRisk =
        some (10 ^ 28 - 1) := by
    decide +kernel
  have hrevenue' : (calculateExposure (sampleExposure [sampleProductionOrder "RL-MO-1" 150]
      (shortLines ++ [longLine])) 0).toOption.map ExposureResult.revenueAtRisk =
        some (10 ^ 28) := by
    decide +kernel
  obtain ⟨result, hresult, hrevenue⟩ := Option.map_eq_some_iff.mp hrevenue
  obtain ⟨result', hresult', hrevenue'⟩ := Option.map_eq_some_iff.mp hrevenue'
  have hreordered : ExposureRequest.Reordered
      (sampleExposure [sampleProductionOrder "RL-MO-1" 150] ([longLine] ++ shortLines))
      (sampleExposure [sampleProductionOrder "RL-MO-1" 150] (shortLines ++ [longLine])) :=
    { analysisId := rfl, partId := rfl, plantId := rfl, inventoryPositions := .refl _,
      receipts := .refl _, transfers := .refl _, bomComponents := .refl _,
      productionOrders := .refl _, customerOrders := List.perm_append_comm,
      responseCost := rfl, assumptions := rfl, remainingUncertainty := rfl }
  have hrelisted := h _ _ 0 result result' (sampleExposure_suppliesNonneg _ _)
    (by show List.Nodup ["RL-MO-1"]; decide) hreordered (eq_ok_of_toOption hresult)
    (eq_ok_of_toOption hresult')
  have hsame : result.revenueAtRisk = result'.revenueAtRisk := by
    rw [hrelisted.2]
  rw [hrevenue, hrevenue'] at hsame
  norm_num at hsame

end SupplyResponse
