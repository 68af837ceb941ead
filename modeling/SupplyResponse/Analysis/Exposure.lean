/-
Component supply and the production orders it covers
(`services/analysis/exposure.py`, `services/exposure/calculator.py`).

* `usableInventory`, `calculateUsableInventory` — the two computations of
  usable stock;
* `allocateComponentSupply` — the greedy allocation in the caller's order;
* `turns` — the same sequence as turns of a pool: each order is preceded by
  the supplies dated after the due dates before it and up to its own.

`allocateOrders_eq` says that the allocation is `Pool.taken` and `Pool.missed`
of these turns; everything else is derived from it.
-/
import SupplyResponse.Domain.Operations
import SupplyResponse.Numbers.Pool
import Mathlib.Algebra.BigOperators.Group.Finset.Piecewise
import Mathlib.Order.WithBot

namespace SupplyResponse

/-- What the analysis pipeline raises. -/
inductive AnalysisError
  | valueError (message : String)
  | policyViolation (message : String)
  | typeError
  | zeroDivisionError
  | overflow
  deriving DecidableEq, Repr

/-! ### Usable inventory -/

/-- `OperationalSnapshot.usable_inventory`. -/
def OperationalSnapshot.usableInventory (snapshot : OperationalSnapshot)
    (partId plantId : String) : ℤ :=
  ((snapshot.inventoryPositions.filter fun p => p.partId = partId ∧ p.plantId = plantId).map
    fun p => (p.onHand : ℤ) - p.qualityHold - p.protectedAllocation).sum

/-- `calculate_usable_inventory`. -/
def calculateUsableInventory (p : InventoryPosition) : ℤ :=
  max 0 ((p.onHand : ℤ) - p.qualityHold - p.protectedAllocation)

/-! ### The allocation -/

structure TimedQuantity where
  date : Date
  quantity : ℤ
  sourceId : String
  deriving DecidableEq

structure OrderAllocation where
  allocatedComponentUnits : ℤ
  uncoveredComponentUnits : ℤ
  fullAndOnTime : Bool
  deriving DecidableEq

structure ComponentSupplyAllocation where
  /-- The assignments `allocations[production_order_id] = …`, oldest first. -/
  assignments : List (String × OrderAllocation)
  uncoveredComponentUnits : ℤ
  deriving DecidableEq

/-- `by_production_order_id[production_order_id]`: a later assignment replaces
an earlier one. -/
def ComponentSupplyAllocation.getItem (allocation : ComponentSupplyAllocation) (id : String) :
    Option OrderAllocation :=
  (allocation.assignments.reverse.find? fun entry => entry.1 = id).map Prod.snd

/-- `supply_by_date[date]`. -/
def suppliedOn (supplies : List TimedQuantity) (date : Date) : ℤ :=
  ((supplies.filter fun s => s.date = date).map TimedQuantity.quantity).sum

/-- `sorted(supply_by_date)`. -/
def supplyDates (supplies : List TimedQuantity) : List Date :=
  (supplies.map TimedQuantity.date).dedup.insertionSort (· ≤ ·)

/-- The inner loop: put what arrives by the due date into the pool, each date
once. -/
def receive (supplies : List TimedQuantity) (dueDate : Date) (available : ℤ)
    (received : List Date) : ℤ × List Date :=
  (supplyDates supplies).foldl
    (fun pool date =>
      if date ≤ dueDate ∧ date ∉ pool.2 then (pool.1 + suppliedOn supplies date, date :: pool.2)
      else pool)
    (available, received)

/-- The outer loop. -/
def allocateOrders (supplies : List TimedQuantity) :
    ℤ → List Date → List ProductionOrder → Except AnalysisError (List (String × OrderAllocation))
  | _, _, [] => .ok []
  | available, received, order :: orders => do
    let pool := receive supplies order.dueDate available received
    match order.componentDemand with
    | none =>
      throw (.valueError
        s!"Production order {order.productionOrderId} is missing component demand")
    | some demand =>
      let allocated := min pool.1 (demand : ℤ)
      let uncovered := demand - allocated
      let rest ← allocateOrders supplies (pool.1 - allocated) pool.2 orders
      pure ((order.productionOrderId, ⟨allocated, uncovered, uncovered = 0⟩) :: rest)

/-- `allocate_component_supply`. -/
def allocateComponentSupply (startingInventory : ℤ) (receipts transfers : List TimedQuantity)
    (productionOrders : List ProductionOrder) : Except AnalysisError ComponentSupplyAllocation := do
  let assignments ← allocateOrders (receipts ++ transfers) startingInventory [] productionOrders
  pure ⟨assignments, (assignments.map fun entry => entry.2.uncoveredComponentUnits).sum⟩

/-! ### The dates that have been received -/

/-- The order of the dates with a bottom; named, so that the definitions below run
wherever the complete lattice of the integers is in scope as well. -/
instance : Preorder (WithBot Date) :=
  @WithBot.instPreorder Date instLatticeInt.toSemilatticeInf.toPartialOrder.toPreorder

/-- The units dated after `after` and not after `through`. -/
def suppliedWithin (supplies : List TimedQuantity) (after : WithBot Date) (through : Date) : ℤ :=
  ((supplies.filter fun s => after < (s.date : WithBot Date) ∧ s.date ≤ through).map
    TimedQuantity.quantity).sum

/-- The units dated on or before `date`. -/
def suppliedBy (supplies : List TimedQuantity) (date : Date) : ℤ :=
  ((supplies.filter fun s => s.date ≤ date).map TimedQuantity.quantity).sum

@[simp] theorem suppliedWithin_cons (s : TimedQuantity) (supplies : List TimedQuantity)
    (after : WithBot Date) (through : Date) :
    suppliedWithin (s :: supplies) after through =
      (if after < (s.date : WithBot Date) ∧ s.date ≤ through then s.quantity else 0) +
        suppliedWithin supplies after through := by
  by_cases h : after < (s.date : WithBot Date) ∧ s.date ≤ through
  · simp [suppliedWithin, h]
  · simp [suppliedWithin, h]

theorem mem_supplyDates {supplies : List TimedQuantity} {date : Date} :
    date ∈ supplyDates supplies ↔ ∃ s ∈ supplies, s.date = date := by
  simp [supplyDates]

theorem nodup_supplyDates (supplies : List TimedQuantity) : (supplyDates supplies).Nodup :=
  (List.perm_insertionSort _ _).nodup_iff.mpr (List.nodup_dedup _)

/-- Summing by date is summing. -/
theorem sum_suppliedOn (supplies : List TimedQuantity) (dates : Finset Date)
    (h : ∀ s ∈ supplies, s.date ∈ dates) (p : Date → Prop) [DecidablePred p] :
    ∑ date ∈ dates with p date, suppliedOn supplies date =
      ((supplies.filter fun s => p s.date).map TimedQuantity.quantity).sum := by
  induction supplies with
  | nil => simp [suppliedOn]
  | cons s supplies ih =>
    have hrest := ih fun t ht => h t (List.mem_cons_of_mem _ ht)
    have hsplit : ∀ date, suppliedOn (s :: supplies) date =
        (if s.date = date then s.quantity else 0) + suppliedOn supplies date := by
      intro date
      by_cases hd : s.date = date
      · simp [suppliedOn, hd]
      · simp [suppliedOn, hd]
    simp only [hsplit, Finset.sum_add_distrib, hrest]
    rw [Finset.sum_ite_eq]
    by_cases hp : p s.date
    · rw [if_pos (Finset.mem_filter.mpr ⟨h s (List.mem_cons_self ..), hp⟩)]
      simp [hp]
    · rw [if_neg (fun hmem => hp (Finset.mem_filter.mp hmem).2)]
      simp [hp]

/-- The loop over the dates adds what is due and not received, and marks it. -/
theorem foldl_receive (supplies : List TimedQuantity) (dueDate : Date) (dates : List Date)
    (hnodup : dates.Nodup) (available : ℤ) (received : List Date) :
    dates.foldl
        (fun pool date =>
          if date ≤ dueDate ∧ date ∉ pool.2 then
            (pool.1 + suppliedOn supplies date, date :: pool.2)
          else pool)
        (available, received) =
      (available + ((dates.filter fun date => date ≤ dueDate ∧ date ∉ received).map
          (suppliedOn supplies)).sum,
        (dates.filter fun date => date ≤ dueDate ∧ date ∉ received).reverse ++ received) := by
  induction dates generalizing available received with
  | nil => simp
  | cons date dates ih =>
    obtain ⟨hnew, hnodup⟩ := List.nodup_cons.mp hnodup
    by_cases hd : date ≤ dueDate ∧ date ∉ received
    · -- this date is received now; the later ones are other dates
      have hfilter : (dates.filter fun e => e ≤ dueDate ∧ e ∉ date :: received) =
          dates.filter fun e => e ≤ dueDate ∧ e ∉ received := by
        refine List.filter_congr fun e he => ?_
        have hne : e ≠ date := fun h => hnew (h ▸ he)
        simp [hne]
      rw [List.foldl_cons, if_pos hd, ih hnodup, hfilter, List.filter_cons_of_pos (by simpa using hd)]
      simp [add_assoc]
    · rw [List.foldl_cons, if_neg hd, ih hnodup, List.filter_cons_of_neg (by simpa using hd)]

/-- `received` holds the supply dates up to `after`. -/
def ReceivedUpTo (supplies : List TimedQuantity) (after : WithBot Date) (received : List Date) :
    Prop :=
  ∀ date ∈ supplyDates supplies, date ∈ received ↔ (date : WithBot Date) ≤ after

theorem receivedUpTo_nil (supplies : List TimedQuantity) : ReceivedUpTo supplies ⊥ [] := by
  intro date _
  simp

theorem receive_fst {supplies : List TimedQuantity} {after : WithBot Date} {received : List Date}
    (h : ReceivedUpTo supplies after received) (dueDate : Date) (available : ℤ) :
    (receive supplies dueDate available received).1 =
      available + suppliedWithin supplies after dueDate := by
  have hfilter : ((supplyDates supplies).filter fun date => date ≤ dueDate ∧ date ∉ received) =
      (supplyDates supplies).filter fun date : Date =>
        after < (date : WithBot Date) ∧ date ≤ dueDate := by
    refine List.filter_congr fun date hdate => ?_
    simp only [h date hdate, not_le, and_comm]
  have hdates : ∀ s ∈ supplies, s.date ∈ (supplyDates supplies).toFinset :=
    fun s hs => List.mem_toFinset.mpr (mem_supplyDates.mpr ⟨s, hs, rfl⟩)
  have hsum := sum_suppliedOn supplies _ hdates fun date : Date =>
    after < (date : WithBot Date) ∧ date ≤ dueDate
  have hlist := List.sum_toFinset (suppliedOn supplies) ((nodup_supplyDates supplies).filter
    fun date : Date => after < (date : WithBot Date) ∧ date ≤ dueDate)
  simp only [List.toFinset_filter, decide_eq_true_eq] at hlist
  rw [receive, foldl_receive supplies dueDate _ (nodup_supplyDates supplies), hfilter, ← hlist,
    hsum, suppliedWithin]

theorem receive_snd {supplies : List TimedQuantity} {after : WithBot Date} {received : List Date}
    (h : ReceivedUpTo supplies after received) (dueDate : Date) (available : ℤ) :
    ReceivedUpTo supplies (max after dueDate) (receive supplies dueDate available received).2 := by
  intro date hdate
  rw [receive, foldl_receive supplies dueDate _ (nodup_supplyDates supplies)]
  simp only [List.mem_append, List.mem_reverse, List.mem_filter, decide_eq_true_eq, hdate,
    true_and, le_max_iff, WithBot.coe_le_coe]
  rw [← h date hdate]
  tauto

/-! ### The allocation as turns of a pool -/

/-- The orders as turns of a pool, `after` being the latest due date so far. -/
def turns (supplies : List TimedQuantity) :
    WithBot Date → List ProductionOrder → List (Pool.Turn ℤ)
  | _, [] => []
  | after, order :: orders =>
    ⟨suppliedWithin supplies after order.dueDate, (order.componentDemand.getD 0 : Nat)⟩ ::
      turns supplies (max after order.dueDate) orders

@[simp] theorem length_turns (supplies : List TimedQuantity) (after : WithBot Date)
    (orders : List ProductionOrder) : (turns supplies after orders).length = orders.length := by
  induction orders generalizing after with
  | nil => rfl
  | cons order orders ih => simp [turns, ih]

/-- What is recorded of an order that got `units.1` units and missed `units.2`. -/
def assignment (order : ProductionOrder) (units : ℤ × ℤ) : String × OrderAllocation :=
  (order.productionOrderId, ⟨units.1, units.2, units.2 = 0⟩)

/-- What each order gets and misses. -/
def served (supplies : List TimedQuantity) (pool : ℤ) (after : WithBot Date)
    (orders : List ProductionOrder) : List (ℤ × ℤ) :=
  (Pool.taken pool (turns supplies after orders)).zip
    (Pool.missed pool (turns supplies after orders))

@[simp] theorem length_served (supplies : List TimedQuantity) (pool : ℤ) (after : WithBot Date)
    (orders : List ProductionOrder) : (served supplies pool after orders).length = orders.length := by
  simp [served]

theorem map_uncovered_assignment {orders : List ProductionOrder} {units : List (ℤ × ℤ)}
    (h : orders.length = units.length) :
    (List.zipWith assignment orders units).map (fun entry => entry.2.uncoveredComponentUnits) =
      units.map Prod.snd := by
  induction orders generalizing units with
  | nil =>
    obtain rfl := List.length_eq_zero_iff.mp h.symm
    rfl
  | cons order orders ih =>
    cases units with
    | nil => simp at h
    | cons u units => simp [assignment, ih (by simpa using h)]

/-- Every order names its component demand. -/
def DemandsKnown (orders : List ProductionOrder) : Prop :=
  ∀ order ∈ orders, order.componentDemand ≠ none

theorem allocateOrders_eq {supplies : List TimedQuantity} {orders : List ProductionOrder}
    (hdemand : DemandsKnown orders) {after : WithBot Date} {received : List Date}
    (hreceived : ReceivedUpTo supplies after received) (available : ℤ) :
    allocateOrders supplies available received orders =
      .ok (List.zipWith assignment orders (served supplies available after orders)) := by
  induction orders generalizing after received available with
  | nil => rfl
  | cons order orders ih =>
    obtain ⟨demand, hd⟩ := Option.ne_none_iff_exists'.mp (hdemand order (List.mem_cons_self ..))
    have hrest := fun pool => ih (fun o ho => hdemand o (List.mem_cons_of_mem _ ho))
      (receive_snd hreceived order.dueDate available) pool
    rw [allocateOrders]
    simp only [hd, receive_fst hreceived, hrest]
    simp only [served, turns, Pool.taken, Pool.missed, hd, Option.getD_some, List.zip_cons_cons,
      List.zipWith_cons_cons, assignment]
    rfl

/-- The first order without a demand makes the allocation raise. -/
theorem allocateOrders_error {supplies : List TimedQuantity} {orders : List ProductionOrder}
    (hdemand : ¬ DemandsKnown orders) (available : ℤ) (received : List Date) :
    ∃ order, orders.find? (fun o => o.componentDemand = none) = some order ∧
      allocateOrders supplies available received orders =
        .error (.valueError
          s!"Production order {order.productionOrderId} is missing component demand") := by
  induction orders generalizing available received with
  | nil => exact absurd (by simp [DemandsKnown]) hdemand
  | cons order orders ih =>
    cases hd : order.componentDemand with
    | none =>
      refine ⟨order, by simp [hd], ?_⟩
      rw [allocateOrders]
      simp only [hd]
      rfl
    | some demand =>
      have hrest : ¬ DemandsKnown orders := by
        intro hall
        refine hdemand fun o ho => ?_
        rcases List.mem_cons.mp ho with rfl | ho
        · simp [hd]
        · exact hall o ho
      obtain ⟨o, ho, herr⟩ := ih hrest
        ((receive supplies order.dueDate available received).1 -
          min (receive supplies order.dueDate available received).1 (demand : ℤ))
        (receive supplies order.dueDate available received).2
      refine ⟨o, by simpa [hd] using ho, ?_⟩
      rw [allocateOrders]
      simp only [hd, herr]
      rfl

/-- The result of the allocation when every demand is known. -/
def allocationOf (supplies : List TimedQuantity) (startingInventory : ℤ)
    (orders : List ProductionOrder) : ComponentSupplyAllocation :=
  ⟨List.zipWith assignment orders (served supplies startingInventory ⊥ orders),
    (Pool.missed startingInventory (turns supplies ⊥ orders)).sum⟩

theorem allocateComponentSupply_eq {receipts transfers : List TimedQuantity}
    {orders : List ProductionOrder} (hdemand : DemandsKnown orders) (startingInventory : ℤ) :
    allocateComponentSupply startingInventory receipts transfers orders =
      .ok (allocationOf (receipts ++ transfers) startingInventory orders) := by
  have huncovered := @map_uncovered_assignment orders
    (served (receipts ++ transfers) startingInventory ⊥ orders) (by simp)
  rw [served, List.map_snd_zip (by simp), ← served] at huncovered
  rw [allocateComponentSupply, allocateOrders_eq hdemand (receivedUpTo_nil _), allocationOf,
    ← huncovered]
  rfl

theorem demandsKnown_of_ok {receipts transfers : List TimedQuantity}
    {orders : List ProductionOrder} {startingInventory : ℤ} {allocation : ComponentSupplyAllocation}
    (h : allocateComponentSupply startingInventory receipts transfers orders = .ok allocation) :
    DemandsKnown orders := by
  by_contra hdemand
  obtain ⟨order, -, herr⟩ := @allocateOrders_error (receipts ++ transfers) _ hdemand
    startingInventory []
  rw [allocateComponentSupply, herr] at h
  exact absurd h nofun

end SupplyResponse
