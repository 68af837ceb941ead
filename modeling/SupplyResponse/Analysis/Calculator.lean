/-
The exposure of a plant to a shortage (`services/exposure/calculator.py`).

* `projectInventory` — the balance after each date;
* `componentDemandForPart` — what the production orders need of the part;
* `walkDays` — the balance after each production order, and the orders it leaves short;
* `calculateExposure` — both, with the customer lines and the amounts at risk;
* `projectDays_eq`, `mem_walkDays` — the two walks are running balances;
* `mem_projection`, `mem_affectedProduction` — what the balances are.
-/
import Mathlib.Data.List.Perm.Subperm
import Mathlib.Data.String.Basic
import Mathlib.Order.Bounds.Basic
import SupplyResponse.Analysis.Monotonicity
import SupplyResponse.Analysis.Options
import SupplyResponse.Numbers.Ledger

namespace SupplyResponse

open Ledger

/-! ### Records -/

structure BomComponent where
  bomId : String
  productId : String
  componentPartId : String
  quantityPer : ℕ
  deriving DecidableEq

structure ProjectionPoint where
  date : Date
  receipts : ℤ
  transfers : ℤ
  demand : ℤ
  projectedBalance : ℤ
  deriving DecidableEq

structure CalculationMetadata where
  analysisId : String
  calculationVersion : String
  timestamp : Instant
  assumptions : List String
  sourceDataLineage : List String
  deriving DecidableEq

structure ExposureResult where
  metadata : CalculationMetadata
  usableInventory : ℤ
  projectedInventory : List ProjectionPoint
  firstStockoutDate : Option Date
  maximumShortageQuantity : ℤ
  affectedProductionOrderIds : List String
  affectedCustomerOrderLineIds : List String
  revenueAtRisk : Money
  marginAtRisk : Money
  otifLinesAtRisk : ℕ
  responseCost : Money
  revenueProtected : Money
  remainingUncertainty : List String
  deriving DecidableEq

/-- The arguments of `calculate_exposure`. -/
structure ExposureRequest where
  analysisId : String
  partId : String
  plantId : String
  inventoryPositions : List InventoryPosition
  receipts : List TimedQuantity
  transfers : List TimedQuantity
  bomComponents : List BomComponent
  productionOrders : List ProductionOrder
  customerOrders : List CustomerOrder
  responseCost : Money := 0
  assumptions : List String := []
  remainingUncertainty : List String := []

def exposureCalculationVersion : String := "exposure-v1"

/-! ### The projection -/

/-- The loop of `project_inventory`. -/
def projectDays (receipts transfers demand : List TimedQuantity) :
    ℤ → List Date → List ProjectionPoint
  | _, [] => []
  | balance, day :: days =>
    let after := balance + (suppliedOn receipts day + suppliedOn transfers day -
      suppliedOn demand day)
    { date := day
      receipts := suppliedOn receipts day
      transfers := suppliedOn transfers day
      demand := suppliedOn demand day
      projectedBalance := after } :: projectDays receipts transfers demand after days

/-- `project_inventory`. -/
def projectInventory (startingBalance : ℤ) (receipts transfers demand : List TimedQuantity) :
    List ProjectionPoint :=
  projectDays receipts transfers demand startingBalance
    (supplyDates (receipts ++ transfers ++ demand))

/-! ### Demand -/

/-- `qty_per_product[product_id]`. -/
def quantityPerProduct (partId : String) (bomComponents : List BomComponent)
    (productId : String) : ℤ :=
  ((bomComponents.filter fun bom => bom.componentPartId = partId ∧ bom.productId = productId).map
    fun bom => (bom.quantityPer : ℤ)).sum

/-- `component_demand_for_part`. -/
def componentDemandForPart (partId plantId : String) (bomComponents : List BomComponent)
    (productionOrders : List ProductionOrder) : List TimedQuantity :=
  (productionOrders.filter fun order =>
    order.plantId = plantId ∧ 0 < quantityPerProduct partId bomComponents order.productId).map
      fun order =>
        { date := order.dueDate
          quantity := order.quantity * quantityPerProduct partId bomComponents order.productId
          sourceId := order.productionOrderId }

/-- `demand_by_order.get(order_id)`: a later entry replaces an earlier one. -/
def demandByOrder (demand : List TimedQuantity) (orderId : String) : Option ℤ :=
  (demand.reverse.find? fun d => d.sourceId = orderId).map TimedQuantity.quantity

/-! ### The affected orders -/

/-- `sorted(orders_by_date[day], key=…)`. -/
def ordersOn (demand : List TimedQuantity) (productionOrders : List ProductionOrder)
    (day : Date) : List ProductionOrder :=
  (productionOrders.filter fun order =>
    (demandByOrder demand order.productionOrderId).isSome ∧ order.dueDate = day).insertionSort
      fun a b => a.productionOrderId ≤ b.productionOrderId

/-- The loop over the orders of a day: the affected ones, and the balance after it. -/
def takeOrders (need : ProductionOrder → ℤ) : ℤ → List ProductionOrder → List String × ℤ
  | balance, [] => ([], balance)
  | balance, order :: orders =>
    let (affected, rest) := takeOrders need (balance - need order) orders
    (if balance < need order then order.productionOrderId :: affected else affected, rest)

/-- The loop over the days. -/
def walkDays (receipts transfers : List TimedQuantity) (need : ProductionOrder → ℤ)
    (orders : Date → List ProductionOrder) : ℤ → List Date → List String
  | _, [] => []
  | balance, day :: days =>
    let supplied := balance + (suppliedOn receipts day + suppliedOn transfers day)
    let (affected, rest) := takeOrders need supplied (orders day)
    affected ++ walkDays receipts transfers need orders rest days

/-! ### The exposure -/

namespace ExposureRequest

variable (request : ExposureRequest)

def relevantPositions : List InventoryPosition :=
  request.inventoryPositions.filter fun p => p.partId = request.partId ∧ p.plantId = request.plantId

def usable : ℤ := (request.relevantPositions.map calculateUsableInventory).sum

def demand : List TimedQuantity :=
  componentDemandForPart request.partId request.plantId request.bomComponents
    request.productionOrders

def projection : List ProjectionPoint :=
  projectInventory request.usable request.receipts request.transfers request.demand

def stockoutPoints : List ProjectionPoint :=
  request.projection.filter fun p => p.projectedBalance < 0

def firstStockout : Option Date := request.stockoutPoints.head?.map ProjectionPoint.date

def maximumShortage : ℤ :=
  if request.stockoutPoints = [] then 0
  else |(request.projection.map ProjectionPoint.projectedBalance).min?.getD 0|

/-- `demand_by_order[order.production_order_id]`. -/
def need (order : ProductionOrder) : ℤ :=
  (demandByOrder request.demand order.productionOrderId).getD 0

/-- The days of the second walk. -/
def orderDays : List Date :=
  (((request.productionOrders.filter fun order =>
      (demandByOrder request.demand order.productionOrderId).isSome).map
        ProductionOrder.dueDate) ++
    request.receipts.map TimedQuantity.date ++
      request.transfers.map TimedQuantity.date).dedup.insertionSort (· ≤ ·)

def affectedProduction : List String :=
  walkDays request.receipts request.transfers request.need
    (ordersOn request.demand request.productionOrders) request.usable request.orderDays

def affectedCustomer : List CustomerOrder :=
  request.customerOrders.filter fun order =>
    order.productionOrderId.any fun id => id ∈ request.affectedProduction

def sourceIds : List String :=
  (request.relevantPositions.map InventoryPosition.inventoryId ++
    (request.receipts ++ request.transfers ++ request.demand).map
      TimedQuantity.sourceId).dedup.insertionSort (· ≤ ·)

end ExposureRequest

/-- `sum((o.unit_amount * o.quantity for o in orders), Decimal("0"))`. -/
def amountAtRisk (unitAmount : CustomerOrder → Money) (orders : List CustomerOrder) :
    Except AnalysisError Money := do
  let amounts ← orders.mapM fun o => decimalResult (decimalContext.mul (unitAmount o) o.quantity)
  decimalResult (decimalContext.sumFrom 0 amounts)

/-- The result, with the amounts at risk. -/
def ExposureRequest.resultWith (request : ExposureRequest) (now : Instant)
    (revenue margin : Money) : ExposureResult where
  metadata :=
    { analysisId := request.analysisId
      calculationVersion := exposureCalculationVersion
      timestamp := now
      assumptions := request.assumptions
      sourceDataLineage := request.sourceIds }
  usableInventory := request.usable
  projectedInventory := request.projection
  firstStockoutDate := request.firstStockout
  maximumShortageQuantity := request.maximumShortage
  affectedProductionOrderIds := request.affectedProduction
  affectedCustomerOrderLineIds := request.affectedCustomer.map CustomerOrder.customerOrderLineId
  revenueAtRisk := revenue
  marginAtRisk := margin
  otifLinesAtRisk := request.affectedCustomer.length
  responseCost := request.responseCost
  revenueProtected := 0
  remainingUncertainty := request.remainingUncertainty

/-- `calculate_exposure`, at the time `now`. -/
def calculateExposure (request : ExposureRequest) (now : Instant) :
    Except AnalysisError ExposureResult := do
  let revenue ← amountAtRisk CustomerOrder.unitRevenue request.affectedCustomer
  let margin ← amountAtRisk CustomerOrder.unitMargin request.affectedCustomer
  pure (request.resultWith now revenue margin)

/-! ### The walks as running balances -/

theorem projectDays_eq (receipts transfers demand : List TimedQuantity) (balance : ℤ)
    (days : List Date) :
    projectDays receipts transfers demand balance days =
      (balances (fun day => suppliedOn receipts day + suppliedOn transfers day -
        suppliedOn demand day) balance days).map fun entry =>
          { date := entry.1
            receipts := suppliedOn receipts entry.1
            transfers := suppliedOn transfers entry.1
            demand := suppliedOn demand entry.1
            projectedBalance := entry.2 } := by
  induction days generalizing balance with
  | nil => rfl
  | cons day days ih => rw [projectDays, balances, List.map_cons, ih]

theorem takeOrders_snd (need : ProductionOrder → ℤ) (balance : ℤ)
    (orders : List ProductionOrder) :
    (takeOrders need balance orders).2 = balance - (orders.map need).sum := by
  induction orders generalizing balance with
  | nil => simp [takeOrders]
  | cons order orders ih =>
    rw [takeOrders, List.map_cons, List.sum_cons]
    dsimp only
    rw [ih]
    omega

/-- The orders of a day after which the balance is negative. -/
theorem mem_takeOrders {need : ProductionOrder → ℤ} {balance : ℤ}
    {orders : List ProductionOrder} {id : String} :
    id ∈ (takeOrders need balance orders).1 ↔
      ∃ entry ∈ balances (fun order => -need order) balance orders,
        entry.2 < 0 ∧ entry.1.productionOrderId = id := by
  induction orders generalizing balance with
  | nil => simp [takeOrders, balances]
  | cons order orders ih =>
    have hnext := @ih (balance + -need order)
    rw [takeOrders, balances, List.exists_mem_cons_iff, ← hnext, ← sub_eq_add_neg]
    dsimp only
    by_cases hshort : balance < need order
    · rw [if_pos hshort, List.mem_cons, and_iff_right (by omega : balance - need order < 0)]
      exact or_congr_left eq_comm
    · rw [if_neg hshort]
      refine (or_iff_right ?_).symm
      rintro ⟨hnegative, -⟩
      omega

/-- The days of the second walk start with what the balance of all days leaves them. -/
theorem mem_walkDays {receipts transfers : List TimedQuantity} {need : ProductionOrder → ℤ}
    {orders : Date → List ProductionOrder} {balance : ℤ} {days : List Date} {id : String} :
    id ∈ walkDays receipts transfers need orders balance days ↔
      ∃ entry ∈ balances (fun day => suppliedOn receipts day + suppliedOn transfers day -
          ((orders day).map need).sum) balance days,
        id ∈ (takeOrders need (entry.2 + ((orders entry.1).map need).sum) (orders entry.1)).1 := by
  induction days generalizing balance with
  | nil => simp [walkDays, balances]
  | cons day days ih =>
    rw [walkDays, balances, List.exists_mem_cons_iff]
    dsimp only
    rw [List.mem_append, ih, takeOrders_snd]
    have hstart : balance + (suppliedOn receipts day + suppliedOn transfers day -
        ((orders day).map need).sum) + ((orders day).map need).sum =
          balance + (suppliedOn receipts day + suppliedOn transfers day) := by omega
    have hrest : balance + (suppliedOn receipts day + suppliedOn transfers day) -
        ((orders day).map need).sum = balance + (suppliedOn receipts day +
          suppliedOn transfers day - ((orders day).map need).sum) := by omega
    rw [hstart, hrest]

/-! ### Sums of what is dated up to a day -/

/-- A sum over one condition is split by two that exclude each other. -/
theorem sum_filter_split {α : Type} (amount : α → ℤ) {p q r : α → Prop} [DecidablePred p]
    [DecidablePred q] [DecidablePred r] (l : List α) (h : ∀ x ∈ l, p x ↔ q x ∨ r x)
    (hdisjoint : ∀ x ∈ l, q x → ¬r x) :
    ((l.filter fun x => p x).map amount).sum =
      ((l.filter fun x => q x).map amount).sum + ((l.filter fun x => r x).map amount).sum := by
  induction l with
  | nil => rfl
  | cons x l ih =>
    have hrest := ih (fun y hy => h y (List.mem_cons_of_mem _ hy))
      fun y hy => hdisjoint y (List.mem_cons_of_mem _ hy)
    have hx := h x (List.mem_cons_self ..)
    have hone := hdisjoint x (List.mem_cons_self ..)
    by_cases hq : q x
    · have hp := hx.mpr (.inl hq)
      simp only [List.filter_cons, hp, hq, hone hq, decide_true, decide_false, if_true,
        Bool.false_eq_true, if_false, List.map_cons, List.sum_cons, hrest]
      omega
    · by_cases hr : r x
      · have hp := hx.mpr (.inr hr)
        simp only [List.filter_cons, hp, hq, hr, decide_true, decide_false, if_true,
          Bool.false_eq_true, if_false, List.map_cons, List.sum_cons, hrest]
        omega
      · have hp : ¬p x := fun hp => (hx.mp hp).elim hq hr
        simp only [List.filter_cons, hp, hq, hr, decide_false, Bool.false_eq_true, if_false, hrest]

theorem sum_filter_mono {α : Type} {amount : α → ℤ} {p q : α → Prop} [DecidablePred p]
    [DecidablePred q] {l : List α} (h : ∀ x ∈ l, p x → q x) (hamount : ∀ x ∈ l, 0 ≤ amount x) :
    ((l.filter fun x => p x).map amount).sum ≤ ((l.filter fun x => q x).map amount).sum := by
  induction l with
  | nil => exact le_rfl
  | cons x l ih =>
    have hrest := ih (fun y hy => h y (List.mem_cons_of_mem _ hy))
      fun y hy => hamount y (List.mem_cons_of_mem _ hy)
    have hx := hamount x (List.mem_cons_self ..)
    by_cases hp : p x
    · have hq := h x (List.mem_cons_self ..) hp
      simp only [List.filter_cons, hp, hq, decide_true, if_true, List.map_cons, List.sum_cons]
      omega
    · by_cases hq : q x
      · simp only [List.filter_cons, hp, hq, decide_true, decide_false, if_true,
          Bool.false_eq_true, if_false, List.map_cons, List.sum_cons]
        omega
      · simp only [List.filter_cons, hp, hq, decide_false, Bool.false_eq_true, if_false]
        exact hrest

/-! ### Consuming orders -/

/-- What `component_demand_for_part` makes of an order. -/
def ProductionOrder.demandFor (order : ProductionOrder) (partId : String)
    (bomComponents : List BomComponent) : TimedQuantity where
  date := order.dueDate
  quantity := order.quantity * quantityPerProduct partId bomComponents order.productId
  sourceId := order.productionOrderId

namespace ExposureRequest

variable {request : ExposureRequest}

/-- The order needs the part at the plant. -/
def Consumes (request : ExposureRequest) (order : ProductionOrder) : Prop :=
  order.plantId = request.plantId ∧
    0 < quantityPerProduct request.partId request.bomComponents order.productId

instance (request : ExposureRequest) : DecidablePred request.Consumes :=
  fun _ => inferInstanceAs (Decidable (_ ∧ _))

def consuming (request : ExposureRequest) : List ProductionOrder :=
  request.productionOrders.filter fun order => request.Consumes order

/-- What a consuming order needs. -/
def units (request : ExposureRequest) (order : ProductionOrder) : ℤ :=
  order.quantity * quantityPerProduct request.partId request.bomComponents order.productId

theorem demand_eq (request : ExposureRequest) :
    request.demand = request.consuming.map fun order =>
      order.demandFor request.partId request.bomComponents := rfl

theorem mem_consuming {order : ProductionOrder} :
    order ∈ request.consuming ↔ order ∈ request.productionOrders ∧ request.Consumes order := by
  unfold consuming
  rw [List.mem_filter, decide_eq_true_eq]

theorem units_nonneg (order : ProductionOrder) (h : request.Consumes order) :
    0 ≤ request.units order :=
  mul_nonneg (Int.natCast_nonneg _) h.2.le

/-- No two production orders have one id. -/
def DistinctIds (request : ExposureRequest) : Prop :=
  (request.productionOrders.map ProductionOrder.productionOrderId).Nodup

theorem DistinctIds.eq (h : request.DistinctIds) {a b : ProductionOrder}
    (ha : a ∈ request.productionOrders) (hb : b ∈ request.productionOrders)
    (hid : a.productionOrderId = b.productionOrderId) : a = b :=
  List.inj_on_of_nodup_map h ha hb hid

/-- The entry of an order in `demand_by_order`. -/
theorem demandByOrder_eq (h : request.DistinctIds) {order : ProductionOrder}
    (horder : order ∈ request.productionOrders) :
    demandByOrder request.demand order.productionOrderId =
      if request.Consumes order then some (request.units order) else none := by
  unfold demandByOrder
  split
  · rename_i hconsumes
    have hentry : order.demandFor request.partId request.bomComponents ∈ request.demand.reverse := by
      rw [List.mem_reverse, demand_eq]
      exact List.mem_map_of_mem (mem_consuming.mpr ⟨horder, hconsumes⟩)
    cases hfind : request.demand.reverse.find? fun d => d.sourceId = order.productionOrderId with
    | none =>
      have hnone := List.find?_eq_none.mp hfind _ hentry
      exact absurd (decide_eq_true rfl) hnone
    | some entry =>
      have hid := List.find?_some hfind
      rw [decide_eq_true_eq] at hid
      have hmem := List.mem_of_find?_eq_some hfind
      rw [List.mem_reverse, demand_eq] at hmem
      obtain ⟨other, hother, rfl⟩ := List.mem_map.mp hmem
      obtain rfl := h.eq (mem_consuming.mp hother).1 horder hid
      rfl
  · rename_i hconsumes
    rw [Option.map_eq_none_iff, List.find?_eq_none]
    intro entry hmem hid
    rw [decide_eq_true_eq] at hid
    rw [List.mem_reverse, demand_eq] at hmem
    obtain ⟨other, hother, rfl⟩ := List.mem_map.mp hmem
    obtain ⟨hstored, hother⟩ := mem_consuming.mp hother
    exact hconsumes (h.eq hstored horder hid ▸ hother)

theorem need_eq (h : request.DistinctIds) {order : ProductionOrder}
    (horder : order ∈ request.consuming) : request.need order = request.units order := by
  obtain ⟨hmem, hconsumes⟩ := mem_consuming.mp horder
  rw [need, demandByOrder_eq h hmem, if_pos hconsumes, Option.getD_some]

/-- The orders with demand are the consuming ones. -/
theorem filter_demandByOrder (h : request.DistinctIds) (p : ProductionOrder → Prop)
    [DecidablePred p] :
    request.productionOrders.filter (fun order =>
      (demandByOrder request.demand order.productionOrderId).isSome ∧ p order) =
        request.consuming.filter fun order => p order := by
  unfold consuming
  rw [List.filter_filter]
  refine List.filter_congr fun order horder => ?_
  rw [demandByOrder_eq h horder]
  by_cases hconsumes : request.Consumes order <;> simp [hconsumes]

theorem perm_ordersOn (h : request.DistinctIds) (day : Date) :
    (ordersOn request.demand request.productionOrders day).Perm
      (request.consuming.filter fun order => order.dueDate = day) := by
  unfold ordersOn
  rw [filter_demandByOrder h fun order => order.dueDate = day]
  exact List.perm_insertionSort _ _

/-- The orders of a day, by their ids. -/
theorem pairwise_ordersOn (h : request.DistinctIds) (day : Date) :
    (ordersOn request.demand request.productionOrders day).Pairwise
      fun a b => a.productionOrderId < b.productionOrderId := by
  have hsorted : (ordersOn request.demand request.productionOrders day).Pairwise
      fun a b => a.productionOrderId ≤ b.productionOrderId := by
    unfold ordersOn
    exact List.pairwise_insertionSort _ _
  have hnodup : (ordersOn request.demand request.productionOrders day).Pairwise
      fun a b => a.productionOrderId ≠ b.productionOrderId := by
    have hids : ((ordersOn request.demand request.productionOrders day).map
        ProductionOrder.productionOrderId).Nodup := by
      rw [((perm_ordersOn h day).map _).nodup_iff]
      exact h.sublist ((List.filter_sublist.trans List.filter_sublist).map _)
    exact List.pairwise_map.mp hids
  exact (hsorted.and hnodup).imp fun ⟨hle, hne⟩ => lt_of_le_of_ne hle hne

/-! ### Balances -/

/-- What consuming orders due up to a day need. -/
def needBy (request : ExposureRequest) (day : Date) : ℤ :=
  ((request.consuming.filter fun order => order.dueDate ≤ day).map request.units).sum

/-- The balance after a day. -/
def balanceOn (request : ExposureRequest) (day : Date) : ℤ :=
  request.usable + suppliedBy (request.receipts ++ request.transfers) day - request.needBy day

/-- The balance just after an order, where earlier due dates come first, then lower ids. -/
def balanceAfter (request : ExposureRequest) (order : ProductionOrder) : ℤ :=
  request.usable + suppliedBy (request.receipts ++ request.transfers) order.dueDate -
    ((request.consuming.filter fun other => DueBefore other order).map request.units).sum

theorem suppliedBy_demand (request : ExposureRequest) (day : Date) :
    suppliedBy request.demand day = request.needBy day := by
  unfold suppliedBy needBy
  rw [demand_eq, List.filter_map, List.map_map]
  rfl

/-- The supplies of listed days add up to what is supplied up to a day. -/
theorem sum_supplied {days : List Date} (hdays : days.Nodup) {supplies : List TimedQuantity}
    (hall : ∀ s ∈ supplies, s.date ∈ days) (day : Date) :
    ((days.filter fun d => d ≤ day).map fun d => suppliedOn supplies d).sum =
      suppliedBy supplies day :=
  sum_groups hdays hall fun d => d ≤ day

theorem mem_orderDays (h : request.DistinctIds) {day : Date} :
    day ∈ request.orderDays ↔ (∃ order ∈ request.consuming, order.dueDate = day) ∨
      ∃ s ∈ request.receipts ++ request.transfers, s.date = day := by
  have hfilter := filter_demandByOrder h fun _ => True
  simp only [and_true, decide_true, List.filter_true, Bool.decide_eq_true] at hfilter
  unfold orderDays
  rw [List.mem_insertionSort, List.mem_dedup, hfilter]
  simp only [List.mem_append, List.mem_map]
  constructor
  · rintro ((horder | ⟨s, hs, hday⟩) | ⟨s, hs, hday⟩)
    · exact .inl horder
    · exact .inr ⟨s, .inl hs, hday⟩
    · exact .inr ⟨s, .inr hs, hday⟩
  · rintro (horder | ⟨s, hs | hs, hday⟩)
    · exact .inl (.inl horder)
    · exact .inl (.inr ⟨s, hs, hday⟩)
    · exact .inr ⟨s, hs, hday⟩

theorem pairwise_sortedDays (days : List Date) :
    (days.dedup.insertionSort (· ≤ ·)).Pairwise (· < ·) := by
  have hnodup : (days.dedup.insertionSort (· ≤ ·)).Nodup :=
    (List.perm_insertionSort _ _).nodup_iff.mpr (List.nodup_dedup days)
  exact ((List.pairwise_insertionSort _ _).and hnodup).imp fun ⟨hle, hne⟩ => lt_of_le_of_ne hle hne

/-- The projection is the balance after each date. -/
theorem mem_projection {p : ProjectionPoint} (h : p ∈ request.projection) :
    p.projectedBalance = request.balanceOn p.date := by
  unfold projection projectInventory at h
  rw [projectDays_eq] at h
  obtain ⟨⟨day, balance⟩, hentry, rfl⟩ := List.mem_map.mp h
  have hsorted : (supplyDates (request.receipts ++ request.transfers ++ request.demand)).Pairwise
      (· < ·) := pairwise_sortedDays _
  have hbalance : balance = request.usable + (((supplyDates (request.receipts ++
      request.transfers ++ request.demand)).filter fun d => d ≤ day).map fun d =>
        suppliedOn request.receipts d + suppliedOn request.transfers d -
          suppliedOn request.demand d).sum := ((mem_balances id hsorted).mp hentry).2
  have hnodup := nodup_supplyDates (request.receipts ++ request.transfers ++ request.demand)
  have hsupplies : ∀ s ∈ request.receipts ++ request.transfers,
      s.date ∈ supplyDates (request.receipts ++ request.transfers ++ request.demand) :=
    fun s hs => mem_supplyDates.mpr ⟨s, List.mem_append_left _ hs, rfl⟩
  have hdemand : ∀ s ∈ request.demand,
      s.date ∈ supplyDates (request.receipts ++ request.transfers ++ request.demand) :=
    fun s hs => mem_supplyDates.mpr ⟨s, List.mem_append_right _ hs, rfl⟩
  have hsum := sum_supplied hnodup hsupplies day
  have hneed := sum_supplied hnodup hdemand day
  dsimp only
  rw [hbalance]
  unfold balanceOn
  rw [← suppliedBy_demand, ← hsum, ← hneed]
  simp only [suppliedOn_append]
  rw [sum_map_sub]
  exact (add_sub_assoc _ _ _).symm

theorem map_date_projection (request : ExposureRequest) :
    request.projection.map ProjectionPoint.date =
      supplyDates (request.receipts ++ request.transfers ++ request.demand) := by
  unfold projection projectInventory
  rw [projectDays_eq, List.map_map]
  exact map_fst_balances _ _ _

/-- What the orders of a day need. -/
theorem sum_need_ordersOn (h : request.DistinctIds) (day : Date) :
    ((ordersOn request.demand request.productionOrders day).map request.need).sum =
      ((request.consuming.filter fun o => o.dueDate = day).map request.units).sum := by
  rw [((perm_ordersOn h day).map request.need).sum_eq]
  exact congrArg List.sum (List.map_congr_left fun o ho => need_eq h (List.mem_of_mem_filter ho))

/-- What the second walk adds on a day. -/
def dayChange (request : ExposureRequest) (day : Date) : ℤ :=
  suppliedOn request.receipts day + suppliedOn request.transfers day -
    ((ordersOn request.demand request.productionOrders day).map request.need).sum

theorem pairwise_orderDays (request : ExposureRequest) : request.orderDays.Pairwise (· < ·) :=
  pairwise_sortedDays _

/-- The balance that the second walk has after an order of a day. -/
theorem mem_balances_orders (h : request.DistinctIds) {day : Date} {balance after : ℤ}
    {o : ProductionOrder}
    (hday : (day, balance) ∈ balances request.dayChange request.usable request.orderDays)
    (ho : (o, after) ∈ balances (fun o => -request.need o)
      (balance + ((ordersOn request.demand request.productionOrders day).map request.need).sum)
        (ordersOn request.demand request.productionOrders day)) :
    o ∈ request.consuming ∧ after = request.balanceAfter o := by
  have hsorted := request.pairwise_orderDays
  have hnodup : request.orderDays.Nodup := hsorted.imp fun hlt => hlt.ne
  have hbalance : balance = request.usable + ((request.orderDays.filter fun d => d ≤ day).map
      fun d => suppliedOn request.receipts d + suppliedOn request.transfers d -
        ((ordersOn request.demand request.productionOrders d).map request.need).sum).sum :=
    ((mem_balances id hsorted).mp hday).2
  obtain ⟨hon, hafter⟩ := (mem_balances ProductionOrder.productionOrderId
    (pairwise_ordersOn h day)).mp ho
  obtain ⟨hconsuming, hdue⟩ := List.mem_filter.mp ((perm_ordersOn h day).mem_iff.mp hon)
  have hdue := of_decide_eq_true hdue
  refine ⟨hconsuming, ?_⟩
  have hsupplies : ∀ s ∈ request.receipts ++ request.transfers, s.date ∈ request.orderDays :=
    fun s hs => (mem_orderDays h).mpr (.inr ⟨s, hs, rfl⟩)
  have hdues : ∀ o ∈ request.consuming, o.dueDate ∈ request.orderDays :=
    fun o ho => (mem_orderDays h).mpr (.inl ⟨o, ho, rfl⟩)
  have hsum := sum_supplied hnodup hsupplies day
  have hneed := @sum_groups _ _ _ ProductionOrder.dueDate request.units _ hnodup _ hdues
    (fun d => d ≤ day) _
  -- the days before this one, and the orders of this one up to `o`
  have hbefore : request.needBy day =
      ((request.consuming.filter fun x => x.dueDate < day).map request.units).sum +
        ((request.consuming.filter fun x => x.dueDate = day).map request.units).sum :=
    sum_filter_split _ _ (fun _ _ => le_iff_lt_or_eq) fun _ _ hlt heq => hlt.ne heq
  have hupTo : ((request.consuming.filter fun x => DueBefore x o).map request.units).sum =
      ((request.consuming.filter fun x => x.dueDate < day).map request.units).sum +
        ((request.consuming.filter fun x => x.dueDate = day ∧
          x.productionOrderId ≤ o.productionOrderId).map request.units).sum := by
    refine sum_filter_split _ _ (fun x _ => ?_) fun _ _ hlt heq => hlt.ne heq.1
    unfold DueBefore
    rw [hdue]
  have hsame : (((ordersOn request.demand request.productionOrders day).filter fun x =>
      x.productionOrderId ≤ o.productionOrderId).map request.need).sum =
        ((request.consuming.filter fun x => x.dueDate = day ∧
          x.productionOrderId ≤ o.productionOrderId).map request.units).sum := by
    rw [(((perm_ordersOn h day).filter _).map request.need).sum_eq, List.filter_filter]
    refine congrArg List.sum ?_
    refine (List.map_congr_left fun x hx => need_eq h (List.mem_of_mem_filter hx)).trans ?_
    refine congrArg (List.map request.units) (List.filter_congr fun x _ => ?_)
    rw [Bool.and_comm, Bool.decide_and]
  rw [hafter, hbalance]
  unfold balanceAfter
  rw [hupTo, hdue, ← hsum]
  simp only [sum_need_ordersOn h, suppliedOn_append, sum_map_sub, sum_map_neg]
  unfold needBy at hbefore
  omega

/-- The affected orders are those with a negative balance just after them. -/
theorem mem_affectedProduction (h : request.DistinctIds) {id : String} :
    id ∈ request.affectedProduction ↔
      ∃ order ∈ request.consuming, order.productionOrderId = id ∧ request.balanceAfter order < 0 := by
  constructor
  · intro haffected
    obtain ⟨⟨day, balance⟩, hday, hid⟩ := mem_walkDays.mp haffected
    obtain ⟨⟨order, after⟩, ho, hnegative, hid⟩ := mem_takeOrders.mp hid
    obtain ⟨hconsuming, rfl⟩ := mem_balances_orders h hday ho
    exact ⟨order, hconsuming, hid, hnegative⟩
  · rintro ⟨order, hconsuming, rfl, hnegative⟩
    -- the day of the order, and the order on its day
    have hmem : order.dueDate ∈ request.orderDays :=
      (mem_orderDays h).mpr (.inl ⟨order, hconsuming, rfl⟩)
    rw [← map_fst_balances request.dayChange request.usable request.orderDays] at hmem
    obtain ⟨⟨day, balance⟩, hday, hdue⟩ := List.mem_map.mp hmem
    have hon : order ∈ ordersOn request.demand request.productionOrders day :=
      (perm_ordersOn h day).mem_iff.mpr (List.mem_filter.mpr
        ⟨hconsuming, decide_eq_true hdue.symm⟩)
    rw [← map_fst_balances (fun o => -request.need o) (balance + ((ordersOn request.demand
      request.productionOrders day).map request.need).sum)
        (ordersOn request.demand request.productionOrders day)] at hon
    obtain ⟨⟨order, after⟩, ho, rfl⟩ := List.mem_map.mp hon
    obtain ⟨-, rfl⟩ := mem_balances_orders h hday ho
    exact mem_walkDays.mpr ⟨_, hday, mem_takeOrders.mpr ⟨_, ho, hnegative, rfl⟩⟩

end ExposureRequest

end SupplyResponse
