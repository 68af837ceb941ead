/-
The projection of a shortage and the production orders it affects agree.

* `balanceOn_le_balanceAfter`, `exists_affected_of_balanceOn` — a date ends short exactly when
  an order due by then is left short;
* `isLeast_firstStockout` — the first date that ends short is the first due date of an
  affected order;
* `isGreatest_maximumShortage` — the largest shortage of the projection.
-/
import Mathlib.Data.Finset.Max
import Mathlib.Data.Prod.Lex
import SupplyResponse.Analysis.Calculator

namespace SupplyResponse

open Ledger

namespace ExposureRequest

variable {request : ExposureRequest}

/-- What is supplied grows with the date. -/
theorem suppliedBy_mono {supplies : List TimedQuantity} (h : QuantitiesNonneg supplies)
    {day day' : Date} (hle : day ≤ day') : suppliedBy supplies day ≤ suppliedBy supplies day' :=
  sum_filter_mono (fun _ _ hdate => hdate.trans hle) h

theorem units_consuming_nonneg : ∀ order ∈ request.consuming, 0 ≤ request.units order :=
  fun order horder => units_nonneg order (mem_consuming.mp horder).2

theorem usable_nonneg (request : ExposureRequest) : 0 ≤ request.usable := by
  refine List.sum_nonneg fun n hn => ?_
  obtain ⟨p, -, rfl⟩ := List.mem_map.mp hn
  exact le_max_left _ _

/-- No receipt and no transfer is negative. -/
def SuppliesNonneg (request : ExposureRequest) : Prop :=
  QuantitiesNonneg request.receipts ∧ QuantitiesNonneg request.transfers

theorem SuppliesNonneg.append (h : request.SuppliesNonneg) :
    QuantitiesNonneg (request.receipts ++ request.transfers) := by
  intro s hs
  rcases List.mem_append.mp hs with hreceipt | htransfer
  · exact h.1 s hreceipt
  · exact h.2 s htransfer

/-- A date ends with no more than what the orders of the date leave. -/
theorem balanceOn_le_balanceAfter (order : ProductionOrder) :
    request.balanceOn order.dueDate ≤ request.balanceAfter order := by
  have hsum : ((request.consuming.filter fun other => DueBefore other order).map
      request.units).sum ≤ request.needBy order.dueDate := by
    refine sum_filter_mono (fun other _ hbefore => ?_) units_consuming_nonneg
    rcases hbefore with hlt | ⟨heq, -⟩
    · exact hlt.le
    · exact heq.le
  unfold balanceOn balanceAfter
  omega

/-- Among some orders there is one that is not before any other. -/
theorem exists_last {orders : List ProductionOrder} (h : orders ≠ []) :
    ∃ last ∈ orders, ∀ order ∈ orders, DueBefore order last := by
  obtain ⟨first, hfirst⟩ := List.exists_mem_of_ne_nil _ h
  obtain ⟨last, hlast, hmax⟩ := orders.toFinset.exists_max_image
    (fun order => toLex (order.dueDate, order.productionOrderId))
    ⟨first, List.mem_toFinset.mpr hfirst⟩
  refine ⟨last, List.mem_toFinset.mp hlast, fun order horder => ?_⟩
  exact Prod.Lex.toLex_le_toLex.mp (hmax order (List.mem_toFinset.mpr horder))

/-- A date that ends short has an order due by then that is left short. -/
theorem exists_affected_of_balanceOn (hsupplies : request.SuppliesNonneg) {day : Date}
    (hshort : request.balanceOn day < 0) :
    ∃ order ∈ request.consuming, order.dueDate ≤ day ∧ request.balanceAfter order < 0 := by
  have hnonneg := hsupplies.append
  have hstart := request.usable_nonneg
  -- the stock and the supplies are not negative, so something is due
  have hdue : (request.consuming.filter fun order => order.dueDate ≤ day) ≠ [] := by
    intro hnone
    have hneed : request.needBy day = 0 := by rw [needBy, hnone, List.map_nil, List.sum_nil]
    have hsupplied : 0 ≤ suppliedBy (request.receipts ++ request.transfers) day :=
      sum_filter_quantity_nonneg hnonneg _
    unfold balanceOn at hshort
    omega
  obtain ⟨last, hlast, hmax⟩ := exists_last hdue
  obtain ⟨hconsuming, hlastDue⟩ := List.mem_filter.mp hlast
  have hlastDue : last.dueDate ≤ day := of_decide_eq_true hlastDue
  refine ⟨last, hconsuming, hlastDue, ?_⟩
  -- up to the last of them, everything due by the date has been taken
  have hall : request.needBy day =
      ((request.consuming.filter fun other => DueBefore other last).map request.units).sum := by
    refine congrArg (fun l => (List.map request.units l).sum) (List.filter_congr fun o ho => ?_)
    refine decide_eq_decide.mpr ⟨fun hle => ?_, fun hbefore => ?_⟩
    · exact hmax o (List.mem_filter.mpr ⟨ho, decide_eq_true hle⟩)
    · rcases hbefore with hlt | ⟨heq, -⟩
      · exact hlt.le.trans hlastDue
      · exact heq.le.trans hlastDue
  have hmono := suppliedBy_mono hnonneg hlastDue
  unfold balanceOn at hshort
  unfold balanceAfter
  omega

/-! ### The first stockout -/

/-- The dates of the projection that end short. -/
theorem mem_stockoutPoints {p : ProjectionPoint} :
    p ∈ request.stockoutPoints ↔ p ∈ request.projection ∧ p.projectedBalance < 0 := by
  unfold stockoutPoints
  rw [List.mem_filter, decide_eq_true_eq]

theorem pairwise_projection (request : ExposureRequest) :
    request.projection.Pairwise fun p q => p.date < q.date := by
  have hdates : (request.projection.map ProjectionPoint.date).Pairwise (· < ·) := by
    rw [map_date_projection]
    exact pairwise_sortedDays _
  exact List.pairwise_map.mp hdates

/-- The first of a list that is sorted by keys has the least key. -/
theorem isLeast_head {α : Type} {key : α → Date} {l : List α}
    (hsorted : l.Pairwise fun a b => key a < key b) {a : α} (ha : l.head? = some a) :
    IsLeast {d | ∃ x ∈ l, key x = d} (key a) := by
  obtain ⟨rest, rfl⟩ := List.head?_eq_some_iff.mp ha
  refine ⟨⟨a, List.mem_cons_self .., rfl⟩, ?_⟩
  rintro _ ⟨x, hx, rfl⟩
  rcases List.mem_cons.mp hx with rfl | hrest
  · exact le_rfl
  · exact ((List.pairwise_cons.mp hsorted).1 x hrest).le

/-- The due dates of the orders that are left short. -/
def affectedDates (request : ExposureRequest) : Set Date :=
  {day | ∃ order ∈ request.consuming, request.balanceAfter order < 0 ∧ order.dueDate = day}

/-- The due date of an order that is left short is a date of the projection that ends short. -/
theorem exists_stockoutPoint {order : ProductionOrder} (horder : order ∈ request.consuming)
    (hshort : request.balanceAfter order < 0) :
    ∃ p ∈ request.stockoutPoints, p.date = order.dueDate := by
  have hdate : order.dueDate ∈ request.projection.map ProjectionPoint.date := by
    rw [map_date_projection, mem_supplyDates]
    refine ⟨order.demandFor request.partId request.bomComponents, ?_, rfl⟩
    refine List.mem_append_right _ ?_
    rw [demand_eq]
    exact List.mem_map_of_mem horder
  obtain ⟨p, hp, hdate⟩ := List.mem_map.mp hdate
  refine ⟨p, mem_stockoutPoints.mpr ⟨hp, ?_⟩, hdate⟩
  rw [mem_projection hp, hdate]
  exact lt_of_le_of_lt (balanceOn_le_balanceAfter order) hshort

theorem exists_affected_of_stockoutPoint (hsupplies : request.SuppliesNonneg)
    {p : ProjectionPoint} (hp : p ∈ request.stockoutPoints) :
    ∃ day ∈ request.affectedDates, day ≤ p.date := by
  obtain ⟨hpoint, hshort⟩ := mem_stockoutPoints.mp hp
  rw [mem_projection hpoint] at hshort
  obtain ⟨order, horder, hdue, hshort⟩ := exists_affected_of_balanceOn hsupplies hshort
  exact ⟨_, ⟨order, horder, hshort, rfl⟩, hdue⟩

/-- The first date that ends short is the first due date of an order that is left short. -/
theorem isLeast_firstStockout (hsupplies : request.SuppliesNonneg) {day : Date}
    (hday : request.firstStockout = some day) : IsLeast request.affectedDates day := by
  obtain ⟨p, hp, rfl⟩ := Option.map_eq_some_iff.mp hday
  have hleast := isLeast_head (request.pairwise_projection.filter _) hp
  obtain ⟨first, hfirst, hle⟩ :=
    exists_affected_of_stockoutPoint hsupplies (List.mem_of_head? hp)
  have hlower : p.date ∈ lowerBounds request.affectedDates := by
    rintro _ ⟨order, horder, hshort, rfl⟩
    exact hleast.2 (exists_stockoutPoint horder hshort)
  obtain rfl := le_antisymm hle (hlower hfirst)
  exact ⟨hfirst, hlower⟩

/-- Something is affected exactly when some date ends short. -/
theorem firstStockout_isSome (hsupplies : request.SuppliesNonneg) :
    request.firstStockout.isSome ↔ request.affectedDates.Nonempty := by
  constructor
  · intro hsome
    obtain ⟨day, hday⟩ := Option.isSome_iff_exists.mp hsome
    exact (isLeast_firstStockout hsupplies hday).nonempty
  · rintro ⟨day, order, horder, hshort, -⟩
    obtain ⟨p, hp, -⟩ := exists_stockoutPoint horder hshort
    unfold firstStockout
    rw [Option.isSome_map, List.isSome_head?]
    exact List.ne_nil_of_mem hp

/-! ### The largest shortage -/

/-- The largest shortage of the projection, zero where no date ends short. -/
theorem isGreatest_maximumShortage (request : ExposureRequest) :
    IsGreatest (insert 0 {short | ∃ p ∈ request.projection, -p.projectedBalance = short})
      request.maximumShortage := by
  unfold maximumShortage
  split
  · rename_i hnone
    refine ⟨Set.mem_insert _ _, ?_⟩
    rintro short (rfl | ⟨p, hp, rfl⟩)
    · exact le_rfl
    · by_contra hshort
      have hmem := mem_stockoutPoints.mpr ⟨hp, by omega⟩
      rw [hnone] at hmem
      exact absurd hmem List.not_mem_nil
  · rename_i hsome
    obtain ⟨p, hp⟩ := List.exists_mem_of_ne_nil _ hsome
    obtain ⟨hpoint, hshort⟩ := mem_stockoutPoints.mp hp
    cases hmin : (request.projection.map ProjectionPoint.projectedBalance).min? with
    | none =>
      have hempty := List.min?_eq_none_iff.mp hmin
      exact absurd (List.mem_map_of_mem hpoint) (hempty ▸ List.not_mem_nil)
    | some least =>
      obtain ⟨hleast, hlower⟩ := List.min?_eq_some_iff.mp hmin
      obtain ⟨q, hq, rfl⟩ := List.mem_map.mp hleast
      have hnegative : q.projectedBalance < 0 :=
        lt_of_le_of_lt (hlower _ (List.mem_map_of_mem hpoint)) hshort
      rw [Option.getD_some, abs_of_neg hnegative]
      refine ⟨.inr ⟨q, hq, rfl⟩, ?_⟩
      rintro short (rfl | ⟨r, hr, rfl⟩)
      · omega
      · have := hlower _ (List.mem_map_of_mem hr)
        omega

/-! ### The result -/

/-- What the result says of the projection and of the affected orders is one account. -/
structure Agrees (request : ExposureRequest) (result : ExposureResult) : Prop where
  affected_iff : result.affectedProductionOrderIds ≠ [] ↔ result.firstStockoutDate.isSome
  earliest : ∀ day, result.firstStockoutDate = some day →
    IsLeast {due | ∃ order ∈ request.productionOrders,
      order.productionOrderId ∈ result.affectedProductionOrderIds ∧ order.dueDate = due} day
  shortage : IsGreatest
    (insert 0 {short | ∃ p ∈ result.projectedInventory, -p.projectedBalance = short})
      result.maximumShortageQuantity
  dates : result.projectedInventory.map ProjectionPoint.date =
    supplyDates (request.receipts ++ request.transfers ++ request.demand)
  balance : ∀ p ∈ result.projectedInventory, p.projectedBalance = request.balanceOn p.date
  stored : ∀ id ∈ result.affectedProductionOrderIds,
    ∃ order ∈ request.productionOrders, order.productionOrderId = id
  affected : ∀ order ∈ request.productionOrders,
    order.productionOrderId ∈ result.affectedProductionOrderIds ↔
      request.Consumes order ∧ request.balanceAfter order < 0

theorem mem_affectedProduction_iff (hids : request.DistinctIds) {order : ProductionOrder}
    (horder : order ∈ request.productionOrders) :
    order.productionOrderId ∈ request.affectedProduction ↔
      request.Consumes order ∧ request.balanceAfter order < 0 := by
  rw [mem_affectedProduction hids]
  constructor
  · rintro ⟨other, hother, hid, hshort⟩
    obtain ⟨hstored, hconsumes⟩ := mem_consuming.mp hother
    obtain rfl := hids.eq hstored horder hid
    exact ⟨hconsumes, hshort⟩
  · rintro ⟨hconsumes, hshort⟩
    exact ⟨order, mem_consuming.mpr ⟨horder, hconsumes⟩, rfl, hshort⟩

/-- The due dates of the listed orders are those of the orders that are left short. -/
theorem affectedDates_eq (hids : request.DistinctIds) :
    {due | ∃ order ∈ request.productionOrders,
      order.productionOrderId ∈ request.affectedProduction ∧ order.dueDate = due} =
        request.affectedDates := by
  ext due
  constructor
  · rintro ⟨order, horder, haffected, rfl⟩
    obtain ⟨hconsumes, hshort⟩ := (mem_affectedProduction_iff hids horder).mp haffected
    exact ⟨order, mem_consuming.mpr ⟨horder, hconsumes⟩, hshort, rfl⟩
  · rintro ⟨order, hconsuming, hshort, rfl⟩
    obtain ⟨horder, hconsumes⟩ := mem_consuming.mp hconsuming
    exact ⟨order, horder, (mem_affectedProduction_iff hids horder).mpr ⟨hconsumes, hshort⟩, rfl⟩

theorem calculateExposure_eq_ok {now : Instant} {result : ExposureResult} :
    calculateExposure request now = .ok result ↔
      ∃ revenue, amountAtRisk CustomerOrder.unitRevenue request.affectedCustomer = .ok revenue ∧
        ∃ margin, amountAtRisk CustomerOrder.unitMargin request.affectedCustomer = .ok margin ∧
          request.resultWith now revenue margin = result := by
  unfold calculateExposure
  simp only [bind_eq_ok, pure, Except.pure, Except.ok.injEq]

theorem agrees_of_calculateExposure (hsupplies : request.SuppliesNonneg)
    (hids : request.DistinctIds) {now : Instant} {result : ExposureResult}
    (h : calculateExposure request now = .ok result) : request.Agrees result := by
  obtain ⟨revenue, -, margin, -, rfl⟩ := calculateExposure_eq_ok.mp h
  have hdates := affectedDates_eq hids
  have hstored : ∀ id ∈ request.affectedProduction,
      ∃ order ∈ request.productionOrders, order.productionOrderId = id := by
    intro id haffected
    obtain ⟨order, hconsuming, hid, -⟩ := (mem_affectedProduction hids).mp haffected
    exact ⟨order, (mem_consuming.mp hconsuming).1, hid⟩
  refine ⟨?_, ?_, request.isGreatest_maximumShortage, map_date_projection request,
    fun p hp => mem_projection hp, hstored, fun _ horder => mem_affectedProduction_iff hids horder⟩
  · refine Iff.trans ?_ (firstStockout_isSome hsupplies).symm
    rw [← hdates]
    constructor
    · intro hne
      obtain ⟨id, haffected⟩ := List.exists_mem_of_ne_nil _ hne
      obtain ⟨order, horder, rfl⟩ := hstored id haffected
      exact ⟨_, order, horder, haffected, rfl⟩
    · rintro ⟨_, order, -, haffected, -⟩
      exact List.ne_nil_of_mem haffected
  · intro day hday
    have hleast := isLeast_firstStockout hsupplies hday
    rw [← hdates] at hleast
    exact hleast

end ExposureRequest

end SupplyResponse
