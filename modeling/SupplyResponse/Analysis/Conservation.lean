/-
Allocations conserve units.

* `AllocationConserves` — in the returned dictionary each order gets between
  nothing and its demand, and all of them together no more than there is;
* `allocationOf_conserves` — so it is from a stock that is not negative, for
  orders with ids of their own;
* `HoldsWithinStock` — no inventory position holds back more than it has: then
  and only then the two computations of usable stock agree, and the stock is
  not negative.
-/
import SupplyResponse.Analysis.Outcomes
import SupplyResponse.Analysis.Rl001

namespace SupplyResponse

/-- `by_production_order_id.values()`: the entry of each id, in the order in which
the ids were first assigned. -/
def ComponentSupplyAllocation.values (allocation : ComponentSupplyAllocation) :
    List OrderAllocation :=
  (allocation.assignments.map Prod.fst).reverse.dedup.reverse.filterMap allocation.getItem

/-- The sum of the allocated units in the returned dictionary. -/
def ComponentSupplyAllocation.allocatedUnits (allocation : ComponentSupplyAllocation) : ℤ :=
  (allocation.values.map OrderAllocation.allocatedComponentUnits).sum

/-- Units are neither lost nor created, and none are owed. -/
structure AllocationConserves (usable supplied : ℤ) (orders : List ProductionOrder)
    (allocation : ComponentSupplyAllocation) : Prop where
  each : ∀ order ∈ orders, ∃ entry,
    allocation.getItem order.productionOrderId = some entry ∧
      0 ≤ entry.allocatedComponentUnits ∧ entry.allocatedComponentUnits ≤ demandOf order ∧
      entry.allocatedComponentUnits + entry.uncoveredComponentUnits = demandOf order
  total : allocation.allocatedUnits + allocation.uncoveredComponentUnits =
    (orders.map demandOf).sum
  supply : allocation.allocatedUnits ≤ usable + supplied
  uncovered : allocation.uncoveredComponentUnits ≤ (orders.map demandOf).sum

section allocation

variable {supplies : List TimedQuantity} {orders : List ProductionOrder}

theorem suppliedForOrders_le (h : QuantitiesNonneg supplies) :
    suppliedForOrders supplies orders ≤ (supplies.map TimedQuantity.quantity).sum := by
  have hsplit := @sum_filter_add supplies (fun s => ∃ o ∈ orders, s.date ≤ o.dueDate)
    (fun s => ¬ ∃ o ∈ orders, s.date ≤ o.dueDate) (fun _ => True) _ _ _
    (fun s => ⟨fun _ => em _, fun _ => trivial⟩) (fun _ hp hn => hn hp)
  have hrest := sum_filter_quantity_nonneg h fun s => decide (¬ ∃ o ∈ orders, s.date ≤ o.dueDate)
  simp only [decide_true, List.filter_true] at hsplit
  rw [suppliedForOrders, ← hsplit]
  exact le_add_of_nonneg_right hrest

/-- The dictionary holds an entry for each order. -/
theorem allocatedUnits_allocationOf (hids : DistinctOrders orders) (stock : ℤ) :
    (allocationOf supplies stock orders).allocatedUnits =
      (Pool.taken stock (turns supplies ⊥ orders)).sum := by
  have hfst : (allocationOf supplies stock orders).assignments.map Prod.fst =
      orders.map ProductionOrder.productionOrderId := by
    rw [allocationOf, map_fst_assignment (by simp)]
  have hnodup : (orders.map ProductionOrder.productionOrderId).reverse.Nodup :=
    List.nodup_reverse.mpr hids
  have hvalues : (allocationOf supplies stock orders).values =
      orders.filterMap fun o =>
        (allocationOf supplies stock orders).getItem o.productionOrderId := by
    rw [ComponentSupplyAllocation.values, hfst, hnodup.dedup, List.reverse_reverse,
      List.filterMap_map]
    rfl
  have hunits : (orders.filterMap fun o =>
      (allocationOf supplies stock orders).getItem o.productionOrderId).map
        OrderAllocation.allocatedComponentUnits =
          orders.map (allocationOf supplies stock orders).unitsFor := by
    rw [List.map_filterMap, ← List.filterMap_eq_map]
    refine List.filterMap_congr fun o ho => ?_
    obtain ⟨entry, hentry, -⟩ := getItem_allocationOf hids supplies stock ho
    simp [ComponentSupplyAllocation.unitsFor, hentry]
  rw [ComponentSupplyAllocation.allocatedUnits, hvalues, hunits, map_unitsFor hids]

/-- From a stock that is not negative, every allocation to orders with ids of their
own conserves units. -/
theorem allocationOf_conserves {stock : ℤ} (hstock : 0 ≤ stock) (h : QuantitiesNonneg supplies)
    (hids : DistinctOrders orders) :
    AllocationConserves stock (supplies.map TimedQuantity.quantity).sum orders
      (allocationOf supplies stock orders) := by
  have hmissed := Pool.missed_nonneg stock (turns supplies ⊥ orders)
  have htaken := @taken_turns_nonneg _ orders _ hstock h
  have hsum := Pool.sum_taken_add_sum_missed stock (turns supplies ⊥ orders)
  rw [map_asked_turns] at hsum
  constructor
  · intro order horder
    obtain ⟨entry, hget, htotal, huncovered, -, hmem⟩ :=
      getItem_allocationOf hids supplies stock horder
    have hallocated := htaken _ (List.of_mem_zip hmem).2
    refine ⟨entry, hget, hallocated, ?_, htotal⟩
    omega
  · rw [allocatedUnits_allocationOf hids]
    exact hsum
  · -- what is not allocated is still in the pool
    have hpool := Pool.pool_add_sum_added stock (turns supplies ⊥ orders)
    have hleft := Pool.remaining_nonneg hstock (turns supplies ⊥ orders)
    have hadded := @suppliedForOrders_le _ orders h
    rw [sum_added_turns_bot] at hpool
    rw [allocatedUnits_allocationOf hids]
    omega
  · have hnonneg := List.sum_nonneg htaken
    simp only [allocationOf]
    omega

end allocation

/-! ### Usable stock -/

/-- The sum of `calculate_usable_inventory` over the same positions. -/
def OperationalSnapshot.calculatedInventory (snapshot : OperationalSnapshot)
    (partId plantId : String) : ℤ :=
  ((snapshot.inventoryPositions.filter fun p => p.partId = partId ∧ p.plantId = plantId).map
    calculateUsableInventory).sum

/-- No position holds back more than it has on hand. -/
def HoldsWithinStock (snapshot : OperationalSnapshot) : Prop :=
  ∀ p ∈ snapshot.inventoryPositions, p.qualityHold + p.protectedAllocation ≤ p.onHand

theorem calculateUsableInventory_eq {p : InventoryPosition}
    (h : p.qualityHold + p.protectedAllocation ≤ p.onHand) :
    calculateUsableInventory p = (p.onHand : ℤ) - p.qualityHold - p.protectedAllocation := by
  rw [calculateUsableInventory]
  omega

theorem calculateUsableInventory_nonneg (p : InventoryPosition) : 0 ≤ calculateUsableInventory p :=
  le_max_left _ _

variable {snapshot : OperationalSnapshot}

theorem calculatedInventory_nonneg (partId plantId : String) :
    0 ≤ snapshot.calculatedInventory partId plantId := by
  refine List.sum_nonneg fun u hu => ?_
  obtain ⟨p, -, rfl⟩ := List.mem_map.mp hu
  exact calculateUsableInventory_nonneg p

/-- The two computations agree exactly when no position is clamped. -/
theorem usableInventory_eq_iff :
    (∀ partId plantId, snapshot.usableInventory partId plantId =
      snapshot.calculatedInventory partId plantId) ↔ HoldsWithinStock snapshot := by
  constructor
  · intro h p hp
    by_contra hover
    -- at the part and plant of a position held below zero the sums differ
    have hmem : p ∈ snapshot.inventoryPositions.filter
        fun q => q.partId = p.partId ∧ q.plantId = p.plantId :=
      List.mem_filter.mpr ⟨hp, by simp⟩
    have hlt : snapshot.usableInventory p.partId p.plantId <
        snapshot.calculatedInventory p.partId p.plantId := by
      refine List.sum_lt_sum _ _ (fun q _ => le_max_right _ _) ⟨p, hmem, ?_⟩
      rw [calculateUsableInventory]
      omega
    exact absurd (h p.partId p.plantId) hlt.ne
  · intro h partId plantId
    rw [OperationalSnapshot.usableInventory, OperationalSnapshot.calculatedInventory]
    congr 1
    refine List.map_congr_left fun p hp => ?_
    exact (calculateUsableInventory_eq (h p (List.mem_filter.mp hp).1)).symm

/-! ### The outcomes of a snapshot -/

/-- Every option outcome comes from an allocation that conserves units, and
usable stock is the same however it is computed. -/
structure ConservesUnits (snapshot : OperationalSnapshot) : Prop where
  outcomes : ∀ options, evaluateResponseOptions snapshot = .ok options →
    ∀ option ∈ options, ∀ outcome ∈ option.predicted,
      ∃ i ∈ interventions snapshot, ∃ orders allocation,
        orderSequence snapshot i.resequence = .ok orders ∧
        allocateComponentSupply (disruptedStock snapshot) i.receipts i.transfers orders =
          .ok allocation ∧
        outcome.uncoveredPartDemand = allocation.uncoveredComponentUnits ∧
        AllocationConserves (disruptedStock snapshot)
          (i.supplies.map TimedQuantity.quantity).sum orders allocation
  allocations : ∀ i ∈ interventions snapshot, ∀ orders allocation,
    orderSequence snapshot i.resequence = .ok orders →
    allocateComponentSupply (disruptedStock snapshot) i.receipts i.transfers orders =
      .ok allocation →
    AllocationConserves (disruptedStock snapshot)
      (i.supplies.map TimedQuantity.quantity).sum orders allocation
  inventory : ∀ partId plantId, snapshot.usableInventory partId plantId =
    snapshot.calculatedInventory partId plantId

theorem distinctOrders_of_sequence {resequence : Bool} {orders : List ProductionOrder}
    (hids : DistinctOrders snapshot.productionOrders)
    (h : orderSequence snapshot resequence = .ok orders) : DistinctOrders orders := by
  obtain ⟨-, rfl⟩ := orderSequence_eq_ok.mp h
  exact ((sequenceOf_perm snapshot resequence).map _).nodup_iff.mpr hids

theorem allocationConserves_of_ok {i : Intervention} (hi : i ∈ interventions snapshot)
    (hstock : 0 ≤ disruptedStock snapshot) {orders : List ProductionOrder}
    (hids : DistinctOrders orders) {allocation : ComponentSupplyAllocation}
    (h : allocateComponentSupply (disruptedStock snapshot) i.receipts i.transfers orders =
      .ok allocation) :
    AllocationConserves (disruptedStock snapshot)
      (i.supplies.map TimedQuantity.quantity).sum orders allocation := by
  rw [allocateComponentSupply_eq (demandsKnown_of_ok h)] at h
  obtain rfl := Except.ok.inj h
  exact allocationOf_conserves hstock (interventions_quantities hi) hids

theorem conservesUnits_of_holdsWithinStock (hids : DistinctOrders snapshot.productionOrders)
    (h : HoldsWithinStock snapshot) : ConservesUnits snapshot := by
  have hinventory := usableInventory_eq_iff.mpr h
  have hstock : 0 ≤ disruptedStock snapshot := by
    rw [disruptedStock, hinventory]
    exact calculatedInventory_nonneg _ _
  refine ⟨fun options hoptions option hoption outcome houtcome => ?_,
    fun i hi orders allocation horders hallocation =>
      allocationConserves_of_ok hi hstock (distinctOrders_of_sequence hids horders) hallocation,
    hinventory⟩
  obtain ⟨i, hi, cost, hcalc⟩ := predicted_of_evaluate hoptions hoption houtcome
  obtain ⟨hpriority, hdemand, -, _, _, _, -, -, -, rfl⟩ := interventionOutcome_eq_ok.mp hcalc
  have hallocation := @allocateComponentSupply_eq i.receipts i.transfers _
    ((demandsKnown_sequenceOf i.resequence).mpr hdemand)
    (disruptedStock snapshot)
  have hsequence := orderSequence_eq_ok.mpr ⟨hpriority, rfl⟩
  exact ⟨i, hi, _, _, hsequence, hallocation, rfl,
    allocationConserves_of_ok hi hstock (distinctOrders_of_sequence hids hsequence) hallocation⟩

/-- Units are conserved only when no position holds back more than it has and, for
production orders with ids of their own, exactly then. -/
theorem conservesUnits_iff (snapshot : OperationalSnapshot) :
    (ConservesUnits snapshot → HoldsWithinStock snapshot) ∧
      (DistinctOrders snapshot.productionOrders →
        (ConservesUnits snapshot ↔ HoldsWithinStock snapshot)) := by
  have hholds : ConservesUnits snapshot → HoldsWithinStock snapshot :=
    fun h => usableInventory_eq_iff.mp h.inventory
  exact ⟨hholds, fun hids => ⟨hholds, conservesUnits_of_holdsWithinStock hids⟩⟩

theorem conservesUnits_iff_sample :
    ConservesUnits (OperationalSnapshot.rl001 "RL-CASE-1" .fallback) := by
  have hids : DistinctOrders (OperationalSnapshot.rl001 "RL-CASE-1" .fallback).productionOrders := by
    unfold DistinctOrders
    decide +kernel
  refine ((conservesUnits_iff _).2 hids).mpr ?_
  unfold HoldsWithinStock
  decide +kernel

/-- RL-001 with another position at the disrupted plant, all of it and more on
quality hold. -/
def overheldSnapshot : OperationalSnapshot :=
  { OperationalSnapshot.rl001 "RL-CASE-1" .fallback with
    inventoryPositions :=
      rl001InventoryPositions ++ [⟨"RL-INV-HELD", "RL-MAT-10247", "RL-PLANT-CHI", 100, 6000, 0⟩] }

/-- The first order is then given −1900 units, and 12700 of 10800 units demanded
are uncovered. -/
theorem overheldSnapshot_not_conserved :
    overheldSnapshot.Valid ∧
      (optionOutcomes overheldSnapshot).map (fun o => o.noMitigation.uncoveredPartDemand) =
        .ok 12700 ∧
      overheldSnapshot.usableInventory "RL-MAT-10247" "RL-PLANT-CHI" = -1900 ∧
      overheldSnapshot.calculatedInventory "RL-MAT-10247" "RL-PLANT-CHI" = 4000 ∧
      ¬ ConservesUnits overheldSnapshot := by
  have hvalid := OperationalSnapshot.rl001_valid "RL-CASE-1" .fallback
  refine ⟨⟨hvalid.1, hvalid.2, hvalid.3, hvalid.4, hvalid.5⟩, by decide +kernel, by decide +kernel,
    by decide +kernel, fun h => ?_⟩
  exact absurd (h.inventory "RL-MAT-10247" "RL-PLANT-CHI") (by decide +kernel)

end SupplyResponse
