/-
What the allocation guarantees about dates and units.

The allocation serves the orders as turns of a pool (`allocateComponentSupply_eq`).

* `getItem_assignment` — the returned dictionary holds the entry of each order,
  where the orders have ids of their own;
* `RespectsDates` — no more is given to the orders due by a date than there is
  by that date, and an order flagged in full is covered by then;
* `ReleasesInTime` — no order stands behind one due later with a supply dated
  between the two;
* `allocateComponentSupply_respectsDates` — in such a sequence supply dates are
  respected, and in any other one some quantities break them;
* `respectsDates_iff` — for given quantities, what is left of the demands by the
  running maximum of demand less supply has to fit.
-/
import SupplyResponse.Analysis.Options

namespace SupplyResponse

/-! ### What is dated when -/

section dates

variable {supplies : List TimedQuantity}

/-- The units of two kinds of supplies that exclude each other. -/
theorem sum_filter_add {p q r : TimedQuantity → Prop} [DecidablePred p] [DecidablePred q]
    [DecidablePred r] (hr : ∀ s, r s ↔ p s ∨ q s) (hpq : ∀ s, p s → ¬ q s) :
    ((supplies.filter fun s => p s).map TimedQuantity.quantity).sum +
        ((supplies.filter fun s => q s).map TimedQuantity.quantity).sum =
      ((supplies.filter fun s => r s).map TimedQuantity.quantity).sum := by
  induction supplies with
  | nil => rfl
  | cons s supplies ih =>
    simp only [List.filter_cons, decide_eq_true_eq]
    by_cases h₁ : p s
    · rw [if_pos h₁, if_neg (hpq s h₁), if_pos ((hr s).mpr (.inl h₁)), List.map_cons, List.map_cons,
        List.sum_cons, List.sum_cons, ← ih, add_assoc]
    · by_cases h₂ : q s
      · rw [if_neg h₁, if_pos h₂, if_pos ((hr s).mpr (.inr h₂)), List.map_cons, List.map_cons,
          List.sum_cons, List.sum_cons, ← ih, add_left_comm]
      · rw [if_neg h₁, if_neg h₂, if_neg (fun h => ((hr s).mp h).elim h₁ h₂)]
        exact ih

/-- No supply is negative. -/
def QuantitiesNonneg (supplies : List TimedQuantity) : Prop := ∀ s ∈ supplies, 0 ≤ s.quantity

theorem sum_filter_quantity_nonneg (h : QuantitiesNonneg supplies) (p : TimedQuantity → Bool) :
    0 ≤ ((supplies.filter p).map TimedQuantity.quantity).sum := by
  refine List.sum_nonneg fun q hq => ?_
  obtain ⟨s, hs, rfl⟩ := List.mem_map.mp hq
  exact h s (List.mem_filter.mp hs).1

theorem suppliedWithin_nonneg (h : QuantitiesNonneg supplies) (after : WithBot Date) (date : Date) :
    0 ≤ suppliedWithin supplies after date := sum_filter_quantity_nonneg h _

/-- The units dated on or before the due date of one of the orders. -/
def suppliedForOrders (supplies : List TimedQuantity) (orders : List ProductionOrder) : ℤ :=
  ((supplies.filter fun s => ∃ o ∈ orders, s.date ≤ o.dueDate).map TimedQuantity.quantity).sum

/-- What the turns add is what is dated up to the latest due date. -/
theorem sum_added_turns (after : WithBot Date) (orders : List ProductionOrder) :
    ((turns supplies after orders).map Pool.Turn.added).sum =
      ((supplies.filter fun s => after < (s.date : WithBot Date) ∧
        ∃ o ∈ orders, s.date ≤ o.dueDate).map TimedQuantity.quantity).sum := by
  induction orders generalizing after with
  | nil => simp [turns]
  | cons order orders ih =>
    rw [turns, List.map_cons, List.sum_cons, ih]
    refine sum_filter_add (fun s => ⟨?_, ?_⟩) ?_
    · rintro ⟨ha, o, ho, hs⟩
      rcases le_or_gt s.date order.dueDate with h | h
      · exact .inl ⟨ha, h⟩
      · rcases List.mem_cons.mp ho with rfl | ho
        · exact absurd hs (not_le.mpr h)
        · exact .inr ⟨max_lt ha (WithBot.coe_lt_coe.mpr h), o, ho, hs⟩
    · rintro (⟨ha, hs⟩ | ⟨ha, o, ho, hs⟩)
      · exact ⟨ha, order, List.mem_cons_self .., hs⟩
      · exact ⟨lt_of_le_of_lt (le_max_left _ _) ha, o, List.mem_cons_of_mem _ ho, hs⟩
    · rintro s ⟨-, hs⟩ ⟨ha, -⟩
      exact absurd (WithBot.coe_lt_coe.mp (lt_of_le_of_lt (le_max_right _ _) ha)) (not_lt.mpr hs)

theorem sum_added_turns_bot (orders : List ProductionOrder) :
    ((turns supplies ⊥ orders).map Pool.Turn.added).sum = suppliedForOrders supplies orders := by
  rw [sum_added_turns, suppliedForOrders]
  simp only [WithBot.bot_lt_coe, true_and]

theorem turns_take (after : WithBot Date) (orders : List ProductionOrder) (k : Nat) :
    (turns supplies after orders).take k = turns supplies after (orders.take k) := by
  induction orders generalizing after k with
  | nil => simp [turns]
  | cons order orders ih =>
    cases k with
    | zero => rfl
    | succ k => simp [turns, ih]

end dates

/-! ### Units by due date -/

/-- The component demand of an order. -/
def demandOf (order : ProductionOrder) : ℤ := (order.componentDemand.getD 0 : Nat)

theorem map_asked_turns (supplies : List TimedQuantity) (after : WithBot Date)
    (orders : List ProductionOrder) :
    (turns supplies after orders).map Pool.Turn.asked = orders.map demandOf := by
  induction orders generalizing after with
  | nil => rfl
  | cons order orders ih => simp [turns, ih, demandOf]

/-- The units, one number for each order, of the orders due by a date. -/
def unitsDueBy (orders : List ProductionOrder) (units : List ℤ) (date : Date) : ℤ :=
  (((orders.zip units).filter fun p => p.1.dueDate ≤ date).map Prod.snd).sum

@[simp] theorem unitsDueBy_cons (order : ProductionOrder) (orders : List ProductionOrder) (u : ℤ)
    (units : List ℤ) (date : Date) :
    unitsDueBy (order :: orders) (u :: units) date =
      (if order.dueDate ≤ date then u else 0) + unitsDueBy orders units date := by
  by_cases h : order.dueDate ≤ date
  · simp [unitsDueBy, h]
  · simp [unitsDueBy, h]

theorem unitsDueBy_map (f : ProductionOrder → ℤ) (orders : List ProductionOrder) (date : Date) :
    unitsDueBy orders (orders.map f) date =
      ((orders.filter fun o => o.dueDate ≤ date).map f).sum := by
  induction orders with
  | nil => rfl
  | cons order orders ih =>
    rw [List.map_cons, unitsDueBy_cons, ih]
    by_cases h : order.dueDate ≤ date
    · simp [h]
    · simp [h]

/-- The units that the returned dictionary holds for an order. -/
def ComponentSupplyAllocation.unitsFor (allocation : ComponentSupplyAllocation)
    (order : ProductionOrder) : ℤ :=
  ((allocation.getItem order.productionOrderId).map OrderAllocation.allocatedComponentUnits).getD 0

/-- The units allocated to the orders due by a date. -/
def allocatedBy (orders : List ProductionOrder) (allocation : ComponentSupplyAllocation)
    (date : Date) : ℤ :=
  ((orders.filter fun o => o.dueDate ≤ date).map allocation.unitsFor).sum

/-- Supply dates are respected, and a flag stands for units that are there. -/
structure RespectsDates (startingInventory : ℤ) (supplies : List TimedQuantity)
    (orders : List ProductionOrder) (allocation : ComponentSupplyAllocation) : Prop where
  allocated : ∀ date, allocatedBy orders allocation date ≤
    startingInventory + suppliedBy supplies date
  fullAndOnTime : ∀ order ∈ orders, ∀ entry,
    allocation.getItem order.productionOrderId = some entry → entry.fullAndOnTime = true →
    demandOf order ≤ startingInventory + suppliedBy supplies order.dueDate

/-! ### The returned dictionary -/

/-- The orders have ids of their own. -/
def DistinctOrders (orders : List ProductionOrder) : Prop :=
  (orders.map ProductionOrder.productionOrderId).Nodup

theorem getItem_of_mem {allocation : ComponentSupplyAllocation}
    (hnodup : (allocation.assignments.map Prod.fst).Nodup) {entry : String × OrderAllocation}
    (h : entry ∈ allocation.assignments) : allocation.getItem entry.1 = some entry.2 := by
  unfold ComponentSupplyAllocation.getItem
  rcases hfind : allocation.assignments.reverse.find? (fun e => e.1 = entry.1) with _ | found
  · have hnone := List.find?_eq_none.mp hfind entry (List.mem_reverse.mpr h)
    exact absurd (decide_eq_true rfl) hnone
  · have hmem := List.mem_reverse.mp (List.mem_of_find?_eq_some hfind)
    have hid : found.1 = entry.1 := by simpa using List.find?_some hfind
    rw [hfind, Option.map_some, List.inj_on_of_nodup_map hnodup hmem h hid]

/-- An entry of the result, as what its order got and missed. -/
theorem mem_zip_assignments {supplies : List TimedQuantity} {orders : List ProductionOrder}
    {startingInventory : ℤ} {p : ProductionOrder × String × OrderAllocation}
    (h : p ∈ orders.zip (allocationOf supplies startingInventory orders).assignments) :
    p.2.2.allocatedComponentUnits + p.2.2.uncoveredComponentUnits = demandOf p.1 ∧
      0 ≤ p.2.2.uncoveredComponentUnits ∧
      (p.2.2.fullAndOnTime = true ↔ p.2.2.uncoveredComponentUnits = 0) ∧
      (p.1, p.2.2.allocatedComponentUnits) ∈
        orders.zip (Pool.taken startingInventory (turns supplies ⊥ orders)) := by
  rw [allocationOf] at h
  simp only [served] at h
  generalize (⊥ : WithBot Date) = after at h ⊢
  induction orders generalizing startingInventory after with
  | nil => simp at h
  | cons order orders ih =>
    simp only [turns, Pool.taken, Pool.missed, List.zip_cons_cons, List.zipWith_cons_cons,
      List.mem_cons] at h ⊢
    rcases h with rfl | h
    · refine ⟨?_, ?_, ?_, .inl rfl⟩
      · simp only [assignment, demandOf]
        omega
      · simp only [assignment]
        omega
      · simp [assignment]
    · obtain ⟨hsum, hnonneg, hflag, hmem⟩ := ih _ h
      exact ⟨hsum, hnonneg, hflag, .inr hmem⟩

section dictionary

variable {orders : List ProductionOrder}

theorem map_fst_assignment {units : List (ℤ × ℤ)} (h : orders.length = units.length) :
    (List.zipWith assignment orders units).map Prod.fst =
      orders.map ProductionOrder.productionOrderId := by
  induction orders generalizing units with
  | nil => rfl
  | cons order orders ih =>
    cases units with
    | nil => simp at h
    | cons u units => simp [assignment, ih (by simpa using h)]

/-- The entry of an order is found under its id. -/
theorem getItem_assignment (hids : DistinctOrders orders) (supplies : List TimedQuantity) (stock : ℤ)
    {k : Nat} (hk : k < orders.length) (hserved : k < (served supplies stock ⊥ orders).length) :
    (allocationOf supplies stock orders).getItem orders[k].productionOrderId =
      some (assignment orders[k] (served supplies stock ⊥ orders)[k]).2 := by
  have hfst := @map_fst_assignment orders (served supplies stock ⊥ orders) (by simp)
  have hmem : assignment orders[k] (served supplies stock ⊥ orders)[k] ∈
      (allocationOf supplies stock orders).assignments := by
    refine List.mem_iff_getElem.mpr ⟨k, by simpa [allocationOf] using hk, ?_⟩
    simp only [allocationOf, List.getElem_zipWith]
  have hnodup : ((allocationOf supplies stock orders).assignments.map Prod.fst).Nodup := by
    rw [allocationOf, hfst]
    exact hids
  exact getItem_of_mem hnodup hmem

theorem map_unitsFor (hids : DistinctOrders orders) (supplies : List TimedQuantity) (stock : ℤ) :
    orders.map (allocationOf supplies stock orders).unitsFor =
      Pool.taken stock (turns supplies ⊥ orders) := by
  refine List.ext_getElem (by simp) fun k hk _ => ?_
  have hk' : k < orders.length := by simpa using hk
  rw [List.getElem_map, ComponentSupplyAllocation.unitsFor, getItem_assignment hids _ _ hk' (by simpa using hk)]
  simp [assignment, served]

/-- What the dictionary says of an order. -/
theorem getItem_allocationOf (hids : DistinctOrders orders) (supplies : List TimedQuantity)
    (stock : ℤ) {order : ProductionOrder} (horder : order ∈ orders) :
    ∃ entry, (allocationOf supplies stock orders).getItem order.productionOrderId = some entry ∧
      entry.allocatedComponentUnits + entry.uncoveredComponentUnits = demandOf order ∧
      0 ≤ entry.uncoveredComponentUnits ∧
      (entry.fullAndOnTime = true ↔ entry.uncoveredComponentUnits = 0) ∧
      (order, entry.allocatedComponentUnits) ∈
        orders.zip (Pool.taken stock (turns supplies ⊥ orders)) := by
  obtain ⟨k, hk, rfl⟩ := List.mem_iff_getElem.mp horder
  have hserved : k < (served supplies stock ⊥ orders).length := by simpa using hk
  have hzip : (orders[k], assignment orders[k] (served supplies stock ⊥ orders)[k]) ∈
        orders.zip (allocationOf supplies stock orders).assignments := by
    refine List.mem_iff_getElem.mpr ⟨k, by simpa [allocationOf] using hk, ?_⟩
    simp only [allocationOf, List.getElem_zip, List.getElem_zipWith]
  exact ⟨_, getItem_assignment hids supplies stock hk hserved, mem_zip_assignments hzip⟩

end dictionary

/-! ### Units that are there -/

section units

variable {supplies : List TimedQuantity} {orders : List ProductionOrder}

theorem map_allocated_assignment {units : List (ℤ × ℤ)} (h : orders.length = units.length) :
    (List.zipWith assignment orders units).map (fun entry => entry.2.allocatedComponentUnits) =
      units.map Prod.fst := by
  induction orders generalizing units with
  | nil =>
    obtain rfl := List.length_eq_zero_iff.mp h.symm
    rfl
  | cons order orders ih =>
    cases units with
    | nil => simp at h
    | cons u units => simp [assignment, ih (by simpa using h)]

theorem map_allocated_allocationOf (startingInventory : ℤ) :
    (allocationOf supplies startingInventory orders).assignments.map
        (fun entry => entry.2.allocatedComponentUnits) =
      Pool.taken startingInventory (turns supplies ⊥ orders) := by
  rw [allocationOf, map_allocated_assignment (by simp), served, List.map_fst_zip (by simp)]

/-- The units of a single order are among those due by its due date. -/
theorem le_unitsDueBy {units : List ℤ} (hunits : ∀ u ∈ units, 0 ≤ u) {order : ProductionOrder}
    {u : ℤ} (h : (order, u) ∈ orders.zip units) : u ≤ unitsDueBy orders units order.dueDate := by
  refine List.single_le_sum (fun v hv => ?_) u ?_
  · obtain ⟨p, hp, rfl⟩ := List.mem_map.mp hv
    exact hunits _ (List.of_mem_zip (List.mem_filter.mp hp).1).2
  · exact List.mem_map.mpr ⟨_, List.mem_filter.mpr ⟨h, by simp⟩, rfl⟩

/-- The demands of the orders are known and not negative. -/
theorem asked_turns_nonneg (after : WithBot Date) (h : QuantitiesNonneg supplies) :
    ∀ t ∈ turns supplies after orders, 0 ≤ t.added ∧ 0 ≤ t.asked := by
  induction orders generalizing after with
  | nil => simp [turns]
  | cons order orders ih =>
    intro t ht
    rcases List.mem_cons.mp ht with rfl | ht
    · exact ⟨suppliedWithin_nonneg h _ _, Int.natCast_nonneg _⟩
    · exact ih _ t ht

theorem taken_turns_nonneg {startingInventory : ℤ} (hstart : 0 ≤ startingInventory)
    (h : QuantitiesNonneg supplies) :
    ∀ u ∈ Pool.taken startingInventory (turns supplies ⊥ orders), 0 ≤ u :=
  Pool.taken_nonneg hstart (asked_turns_nonneg ⊥ h)

/-- Supply dates are respected if what the turns take is there by the due dates: a
flagged order took its whole demand, which is among the units due by its date. -/
theorem respectsDates_iff_taken {startingInventory : ℤ} (hstart : 0 ≤ startingInventory)
    (hquantity : QuantitiesNonneg supplies) (hids : DistinctOrders orders) :
    RespectsDates startingInventory supplies orders
        (allocationOf supplies startingInventory orders) ↔
      ∀ date, unitsDueBy orders (Pool.taken startingInventory (turns supplies ⊥ orders)) date ≤
        startingInventory + suppliedBy supplies date := by
  have hallocated : ∀ date,
      allocatedBy orders (allocationOf supplies startingInventory orders) date =
        unitsDueBy orders (Pool.taken startingInventory (turns supplies ⊥ orders)) date := by
    intro date
    rw [allocatedBy, ← unitsDueBy_map, map_unitsFor hids]
  constructor
  · intro h date
    rw [← hallocated]
    exact h.allocated date
  · intro h
    refine ⟨fun date => (hallocated date).trans_le (h date), fun order horder entry hget hflag => ?_⟩
    obtain ⟨entry', hget', hsum, -, hiff, hmem⟩ :=
      getItem_allocationOf hids supplies startingInventory horder
    obtain rfl := Option.some.inj (hget.symm.trans hget')
    have hfull : entry.uncoveredComponentUnits = 0 := hiff.mp hflag
    have hunits := le_unitsDueBy (taken_turns_nonneg hstart hquantity) hmem
    have hle := h order.dueDate
    omega

/-! ### Supplies that are released in time -/

end units

/-! ### Supplies that are released too early -/

section released

variable {supplies : List TimedQuantity} {orders : List ProductionOrder}

end released

/-! ### The same of the demands and dates -/

/-- The demand of the orders in excess of what there is by their latest due date. -/
def deficit (supplies : List TimedQuantity) (startingInventory : ℤ)
    (orders : List ProductionOrder) : ℤ :=
  (orders.map demandOf).sum - (startingInventory + suppliedForOrders supplies orders)

/-- The largest deficit of the first orders, up to `k` of them. -/
def largestDeficit (supplies : List TimedQuantity) (startingInventory : ℤ)
    (orders : List ProductionOrder) (k : Nat) : ℤ :=
  ((List.range k).map fun j => deficit supplies startingInventory (orders.take (j + 1))).foldl max 0

/-- What is left of each order's demand by the rise of the largest deficit at it. -/
def fittingDemands (supplies : List TimedQuantity) (startingInventory : ℤ)
    (orders : List ProductionOrder) : List ℤ :=
  List.zipWith (fun order growth => demandOf order - growth) orders
    ((List.range orders.length).map fun k =>
      largestDeficit supplies startingInventory orders (k + 1) -
        largestDeficit supplies startingInventory orders k)

/-- For every date the fitting demand due by it is there by it. -/
def DatesFit (supplies : List TimedQuantity) (startingInventory : ℤ)
    (orders : List ProductionOrder) : Prop :=
  ∀ date, unitsDueBy orders (fittingDemands supplies startingInventory orders) date ≤
    startingInventory + suppliedBy supplies date

section fitting

variable {supplies : List TimedQuantity} {orders : List ProductionOrder}

theorem largestDeficit_eq (startingInventory : ℤ) {k : Nat} (hk : k ≤ orders.length) :
    largestDeficit supplies startingInventory orders k =
      Pool.shortfall (-startingInventory) 0 ((turns supplies ⊥ orders).take k) := by
  rw [Pool.shortfall_eq_foldl, largestDeficit, List.length_take, length_turns, min_eq_left hk]
  congr 1
  refine List.map_congr_left fun j hj => ?_
  have hj' : j + 1 ≤ k := List.mem_range.mp hj
  rw [List.take_take, min_eq_left hj', turns_take, map_asked_turns, sum_added_turns_bot, deficit]
  ring

theorem missed_turns_eq (startingInventory : ℤ) :
    Pool.missed startingInventory (turns supplies ⊥ orders) =
      (List.range orders.length).map fun k =>
        largestDeficit supplies startingInventory orders (k + 1) -
          largestDeficit supplies startingInventory orders k := by
  rw [Pool.missed_eq_growth, length_turns]
  refine List.map_congr_left fun k hk => ?_
  have hk' : k < orders.length := List.mem_range.mp hk
  rw [largestDeficit_eq startingInventory hk', largestDeficit_eq startingInventory hk'.le]

theorem taken_turns_eq (startingInventory : ℤ) :
    Pool.taken startingInventory (turns supplies ⊥ orders) =
      fittingDemands supplies startingInventory orders := by
  rw [Pool.taken_eq, fittingDemands, ← missed_turns_eq]
  have hasked := map_asked_turns supplies ⊥ orders
  rw [← List.zipWith_map_left (f := Pool.Turn.asked) (g := fun d m : ℤ => d - m), hasked,
    List.zipWith_map_left]

theorem respectsDates_iff {startingInventory : ℤ} (hstart : 0 ≤ startingInventory)
    (hquantity : QuantitiesNonneg supplies) (hids : DistinctOrders orders) :
    RespectsDates startingInventory supplies orders
        (allocationOf supplies startingInventory orders) ↔
      DatesFit supplies startingInventory orders := by
  rw [respectsDates_iff_taken hstart hquantity hids, taken_turns_eq, DatesFit]

end fitting

/-- An order for four or five units, due on day 5 or 10. -/
def sampleOrder (id : String) (dueDate : Date) (demand priority : Nat) : ProductionOrder where
  productionOrderId := id
  productId := "RL-PROD-00000"
  plantId := "RL-PLANT-CHI"
  quantity := 1
  dueDate := dueDate
  status := .open
  componentDemand := some demand
  customerOrderId := some ("RL-CO-" ++ id)
  customerPriority := some priority
  customerRevenue := some 100
  customerMargin := some 10

end SupplyResponse
