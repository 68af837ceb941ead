/-
More supply never predicts a worse outcome.

* `SuppliesAtLeast`, `SameSupplies` — supplies compared by what each date brings;
* `uncovered_le_of_suppliesAtLeast` — order by order, more supply and more stock
  leave no more uncovered;
* `allocateComponentSupply_congr` — only the units of each date count;
* `noWorse_of_suppliesAtLeast` — an intervention with more supply in the same
  sequence has a no worse outcome.
-/
import SupplyResponse.Analysis.Conservation
import Mathlib.Algebra.Order.BigOperators.Group.Finset

namespace SupplyResponse

/-! ### Comparing supplies -/

/-- Every date brings at least as much. -/
def SuppliesAtLeast (supplies supplies' : List TimedQuantity) : Prop :=
  ∀ date, suppliedOn supplies date ≤ suppliedOn supplies' date

/-- Every date brings the same. -/
def SameSupplies (supplies supplies' : List TimedQuantity) : Prop :=
  ∀ date, suppliedOn supplies date = suppliedOn supplies' date

section supplies

variable {supplies supplies' : List TimedQuantity}

theorem suppliedOn_append (date : Date) :
    suppliedOn (supplies ++ supplies') date = suppliedOn supplies date + suppliedOn supplies' date := by
  simp [suppliedOn]

theorem suppliedOn_nonneg (h : QuantitiesNonneg supplies) (date : Date) :
    0 ≤ suppliedOn supplies date := sum_filter_quantity_nonneg h _

theorem sameSupplies_of_perm (h : supplies.Perm supplies') : SameSupplies supplies supplies' :=
  fun _ => ((h.filter _).map _).sum_eq

/-- The parts of a supply, on its date, are worth the supply. -/
theorem suppliedOn_parts {s : TimedQuantity} {parts : List TimedQuantity}
    (hdate : ∀ t ∈ parts, t.date = s.date)
    (hsum : (parts.map TimedQuantity.quantity).sum = s.quantity) (date : Date) :
    suppliedOn parts date = suppliedOn [s] date := by
  by_cases h : s.date = date
  · have hall : parts.filter (fun t => t.date = date) = parts :=
      List.filter_eq_self.mpr fun t ht => by simp [hdate t ht, h]
    simp [suppliedOn, hall, h, hsum]
  · have hnone : parts.filter (fun t => t.date = date) = [] :=
      List.filter_eq_nil_iff.mpr fun t ht => by simp [hdate t ht, h]
    simp [suppliedOn, hnone, h]

/-- A window, date by date, over any dates that include those of the supplies. -/
theorem suppliedWithin_eq_sum (dates : Finset Date) (h : ∀ s ∈ supplies, s.date ∈ dates)
    (after : WithBot Date) (through : Date) :
    suppliedWithin supplies after through =
      ∑ date ∈ dates with after < ((date : Date) : WithBot Date) ∧ date ≤ through,
        suppliedOn supplies date := by
  rw [sum_suppliedOn supplies dates h fun date : Date =>
    after < (date : WithBot Date) ∧ date ≤ through]
  rfl

/-- Dates that include those of two lists of supplies. -/
theorem exists_dates (supplies supplies' : List TimedQuantity) :
    ∃ dates : Finset Date, (∀ s ∈ supplies, s.date ∈ dates) ∧ ∀ s ∈ supplies', s.date ∈ dates := by
  refine ⟨((supplies ++ supplies').map TimedQuantity.date).toFinset, fun s hs => ?_, fun s hs => ?_⟩
  · exact List.mem_toFinset.mpr (List.mem_map.mpr ⟨s, List.mem_append_left _ hs, rfl⟩)
  · exact List.mem_toFinset.mpr (List.mem_map.mpr ⟨s, List.mem_append_right _ hs, rfl⟩)

theorem suppliedWithin_le (h : SuppliesAtLeast supplies supplies') (after : WithBot Date)
    (through : Date) :
    suppliedWithin supplies after through ≤ suppliedWithin supplies' after through := by
  obtain ⟨dates, hdates, hdates'⟩ := exists_dates supplies supplies'
  rw [suppliedWithin_eq_sum dates hdates, suppliedWithin_eq_sum dates hdates']
  exact Finset.sum_le_sum fun date _ => h date

theorem turns_addsMore (h : SuppliesAtLeast supplies supplies') (after : WithBot Date)
    (orders : List ProductionOrder) :
    Pool.AddsMore (turns supplies after orders) (turns supplies' after orders) := by
  induction orders generalizing after with
  | nil => exact List.Forall₂.nil
  | cons order orders ih =>
    exact List.Forall₂.cons ⟨rfl, suppliedWithin_le h after order.dueDate⟩ (ih _)

theorem turns_congr (h : SameSupplies supplies supplies') (after : WithBot Date)
    (orders : List ProductionOrder) :
    turns supplies after orders = turns supplies' after orders := by
  have hwithin : ∀ a t, suppliedWithin supplies a t = suppliedWithin supplies' a t := fun a t =>
    le_antisymm (suppliedWithin_le (fun date => (h date).le) a t)
      (suppliedWithin_le (fun date => (h date).ge) a t)
  induction orders generalizing after with
  | nil => rfl
  | cons order orders ih => rw [turns, turns, hwithin, ih]

end supplies

/-! ### Comparing allocations -/

/-- Entry by entry the same order, with no more uncovered. -/
def NoMoreUncovered (assignments assignments' : List (String × OrderAllocation)) : Prop :=
  List.Forall₂
    (fun e e' => e'.1 = e.1 ∧ e'.2.uncoveredComponentUnits ≤ e.2.uncoveredComponentUnits ∧
      (e.2.fullAndOnTime = true → e'.2.fullAndOnTime = true))
    assignments assignments'

section allocations

variable {orders : List ProductionOrder}

theorem noMoreUncovered_zipWith {taken taken' missed missed' : List ℤ}
    (htaken : taken.length = missed.length) (htaken' : taken'.length = missed'.length)
    (hnonneg : ∀ m ∈ missed', 0 ≤ m) (h : List.Forall₂ (· ≤ ·) missed' missed)
    (hlength : orders.length = missed.length) :
    NoMoreUncovered (List.zipWith assignment orders (taken.zip missed))
      (List.zipWith assignment orders (taken'.zip missed')) := by
  induction h generalizing orders taken taken' with
  | nil =>
    obtain rfl := List.length_eq_zero_iff.mp hlength
    exact List.Forall₂.nil
  | @cons m' m missed' missed hm _ ih =>
    obtain ⟨order, orders, rfl⟩ := List.exists_cons_of_length_eq_add_one hlength
    obtain ⟨t, taken, rfl⟩ := List.exists_cons_of_length_eq_add_one htaken
    obtain ⟨t', taken', rfl⟩ := List.exists_cons_of_length_eq_add_one htaken'
    refine List.Forall₂.cons ⟨rfl, hm, ?_⟩ (ih (by simpa using htaken) (by simpa using htaken')
      (fun x hx => hnonneg x (List.mem_cons_of_mem _ hx)) (by simpa using hlength))
    -- a flag stands for nothing uncovered
    have hm' := hnonneg m' (List.mem_cons_self ..)
    simp only [assignment, decide_eq_true_eq]
    omega

theorem allocationOf_noMoreUncovered {supplies supplies' : List TimedQuantity} {stock stock' : ℤ}
    (hstock : stock ≤ stock') (h : SuppliesAtLeast supplies supplies') :
    NoMoreUncovered (allocationOf supplies stock orders).assignments
      (allocationOf supplies' stock' orders).assignments :=
  noMoreUncovered_zipWith (by simp) (by simp) (Pool.missed_nonneg _ _)
    (Pool.missed_le_of_le hstock (turns_addsMore h ⊥ orders)) (by simp)

/-- More supply and more stock leave no order with more uncovered. -/
theorem uncovered_le_of_suppliesAtLeast {receipts transfers receipts' transfers' : List TimedQuantity}
    {stock stock' : ℤ} (hstock : stock ≤ stock')
    (h : SuppliesAtLeast (receipts ++ transfers) (receipts' ++ transfers'))
    {allocation allocation' : ComponentSupplyAllocation}
    (hok : allocateComponentSupply stock receipts transfers orders = .ok allocation)
    (hok' : allocateComponentSupply stock' receipts' transfers' orders = .ok allocation') :
    NoMoreUncovered allocation.assignments allocation'.assignments := by
  have hdemand := demandsKnown_of_ok hok
  rw [allocateComponentSupply_eq hdemand] at hok hok'
  obtain rfl := Except.ok.inj hok
  obtain rfl := Except.ok.inj hok'
  exact allocationOf_noMoreUncovered hstock h

/-- Only what each date brings counts. -/
theorem allocateComponentSupply_congr {receipts transfers receipts' transfers' : List TimedQuantity}
    (h : SameSupplies (receipts ++ transfers) (receipts' ++ transfers')) (stock : ℤ) :
    allocateComponentSupply stock receipts transfers orders =
      allocateComponentSupply stock receipts' transfers' orders := by
  by_cases hdemand : DemandsKnown orders
  · rw [allocateComponentSupply_eq hdemand, allocateComponentSupply_eq hdemand, allocationOf,
      allocationOf, served, served, turns_congr h]
  · obtain ⟨o, ho, herr⟩ := @allocateOrders_error (receipts ++ transfers) _ hdemand stock []
    obtain ⟨o', ho', herr'⟩ :=
      @allocateOrders_error (receipts' ++ transfers') _ hdemand stock []
    obtain rfl : o = o' := Option.some.inj (ho.symm.trans ho')
    rw [allocateComponentSupply, allocateComponentSupply, herr, herr']

theorem find?_flag {entries entries' : List (String × OrderAllocation)}
    (h : NoMoreUncovered entries entries') (id : String)
    (hflag : ((entries.find? fun e => e.1 = id).map Prod.snd).any OrderAllocation.fullAndOnTime = true) :
    ((entries'.find? fun e => e.1 = id).map Prod.snd).any OrderAllocation.fullAndOnTime = true := by
  induction h with
  | nil => exact hflag
  | @cons e e' entries entries' he _ ih =>
    obtain ⟨hid, -, hf⟩ := he
    by_cases hhead : e.1 = id
    · have hhead' : e'.1 = id := hid.trans hhead
      simp only [List.find?_cons, hhead, hhead', decide_true, Option.map_some, Option.any_some] at hflag ⊢
      exact hf hflag
    · have hhead' : ¬ e'.1 = id := fun h => hhead (hid ▸ h)
      simp only [List.find?_cons, hhead, hhead', decide_false] at hflag ⊢
      exact ih hflag

/-- What is protected stays protected. -/
theorem protectedOrders_sublist {allocation allocation' : ComponentSupplyAllocation}
    (h : NoMoreUncovered allocation.assignments allocation'.assignments) :
    (protectedOrders allocation orders).Sublist (protectedOrders allocation' orders) := by
  refine List.monotone_filter_right orders fun o ho => ?_
  exact find?_flag (List.forall₂_reverse_iff.mpr h) o.productionOrderId ho

end allocations

/-! ### Comparing outcomes -/

/-- `q` is no worse than `p` on what supply can change. -/
structure NoWorse (p q : PredictedOutcome) : Prop where
  uncoveredPartDemand : q.uncoveredPartDemand ≤ p.uncoveredPartDemand
  otifLossPercentage : q.otifLossPercentage ≤ p.otifLossPercentage
  revenueAtRisk : q.revenueAtRisk ≤ p.revenueAtRisk
  marginAtRisk : q.marginAtRisk ≤ p.marginAtRisk
  protectedCustomerOrderIds : p.protectedCustomerOrderIds.Sublist q.protectedCustomerOrderIds

variable {snapshot : OperationalSnapshot}

theorem coveredBy_sublist {i j : Intervention} (hsequence : i.resequence = j.resequence)
    (h : SuppliesAtLeast i.supplies j.supplies) :
    (coveredBy snapshot i).Sublist (coveredBy snapshot j) := by
  rw [coveredBy, coveredBy, ← hsequence]
  refine protectedOrders_sublist ?_
  rw [allocationFor, allocationFor, ← hsequence]
  exact allocationOf_noMoreUncovered le_rfl h

theorem uncoveredBy_sublist {i j : Intervention} (hsequence : i.resequence = j.resequence)
    (h : SuppliesAtLeast i.supplies j.supplies) :
    (uncoveredBy snapshot j).Sublist (uncoveredBy snapshot i) := by
  have hcovered := @coveredBy_sublist snapshot _ _ hsequence h
  rw [uncoveredBy, uncoveredBy, unprotectedOrders, unprotectedOrders, ← hsequence]
  refine List.monotone_filter_right _ fun o ho => ?_
  simp only [decide_eq_true_eq] at ho ⊢
  exact fun hmem => ho (hcovered.subset hmem)

theorem mem_uncoveredBy {i : Intervention} {o : ProductionOrder} (h : o ∈ uncoveredBy snapshot i) :
    o ∈ snapshot.productionOrders :=
  (sequenceOf_perm snapshot i.resequence).mem_iff.mp (List.mem_filter.mp h).1

theorem customerRevenue_nonneg (hvalid : snapshot.Valid) (i : Intervention) :
    ∀ value ∈ (uncoveredBy snapshot i).map ProductionOrder.customerRevenue,
      NonnegIfPresent value := by
  intro value hvalue
  obtain ⟨o, ho, rfl⟩ := List.mem_map.mp hvalue
  exact (hvalid.productionOrders o (mem_uncoveredBy ho)).customerRevenue

theorem customerMargin_nonneg (hvalid : snapshot.Valid) (i : Intervention) :
    ∀ value ∈ (uncoveredBy snapshot i).map ProductionOrder.customerMargin,
      NonnegIfPresent value := by
  intro value hvalue
  obtain ⟨o, ho, rfl⟩ := List.mem_map.mp hvalue
  exact (hvalid.productionOrders o (mem_uncoveredBy ho)).customerMargin

/-- More supply in the same sequence makes no outcome worse. -/
theorem noWorse_of_suppliesAtLeast (hvalid : snapshot.Valid) {i j : Intervention}
    (hsequence : i.resequence = j.resequence) (h : SuppliesAtLeast i.supplies j.supplies)
    {cost cost' : Money} {p q : PredictedOutcome}
    (hp : calculateInterventionOutcome snapshot i.receipts i.transfers i.resequence cost = .ok p)
    (hq : calculateInterventionOutcome snapshot j.receipts j.transfers j.resequence cost' = .ok q) :
    NoWorse p q := by
  obtain ⟨-, -, hne, revenue, margin, c, hrevenue, hmargin, -, rfl⟩ :=
    interventionOutcome_eq_ok.mp hp
  obtain ⟨-, -, -, revenue', margin', c', hrevenue', hmargin', -, rfl⟩ :=
    interventionOutcome_eq_ok.mp hq
  have hcovered := @coveredBy_sublist snapshot _ _ hsequence h
  have huncovered := @uncoveredBy_sublist snapshot _ _ hsequence h
  constructor
  · -- each order's uncovered units
    have hmissed := Pool.missed_le_of_le (le_refl (disruptedStock snapshot))
      (turns_addsMore h ⊥ (sequenceOf snapshot i.resequence))
    simp only [outcomeOf, allocationFor, allocationOf, ← hsequence]
    exact hmissed.sum_le_sum
  · have hpos : (0 : ℤ) < snapshot.productionOrders.length := by
      exact_mod_cast List.length_pos_iff.mpr hne
    have hlength : ((coveredBy snapshot i).length : ℤ) ≤ (coveredBy snapshot j).length := by
      exact_mod_cast hcovered.length_le
    simp only [outcomeOf]
    exact Int.ediv_le_ediv hpos (by omega)
  · exact sumMoney_le_of_sublist (huncovered.map _) (customerRevenue_nonneg hvalid i) hrevenue'
      hrevenue
  · exact sumMoney_le_of_sublist (huncovered.map _) (customerMargin_nonneg hvalid i) hmargin'
      hmargin
  · exact hcovered.filterMap _

/-- The intervention that an option kind stands for. -/
def interventionOf (snapshot : OperationalSnapshot) : ResponseOptionKind → Intervention
  | .noMitigation | .alternateSource => .noMitigation
  | .expedite => .expedite snapshot
  | .transfer => .transfer snapshot
  | .resequence => .resequenced
  | .combined => .combined snapshot

/-- The prediction of an option is the outcome of the intervention of its kind. -/
theorem predicted_of_kind {options : List ResponseOption}
    (h : evaluateResponseOptions snapshot = .ok options) {option : ResponseOption}
    (hoption : option ∈ options) {outcome : PredictedOutcome}
    (houtcome : option.predicted = some outcome) :
    ∃ cost, calculateInterventionOutcome snapshot (interventionOf snapshot option.optionKind).receipts
      (interventionOf snapshot option.optionKind).transfers
      (interventionOf snapshot option.optionKind).resequence cost = .ok outcome := by
  obtain ⟨outcomes, houtcomes, rfl⟩ := evaluateResponseOptions_eq_ok.mp h
  obtain ⟨expedite, transfer, combined, -, -, -, h₁, h₂, h₃, h₄, h₅⟩ :=
    optionOutcomes_eq_ok.mp houtcomes
  simp only [optionsOf, List.mem_cons, List.not_mem_nil, or_false] at hoption
  rcases hoption with rfl | rfl | rfl | rfl | rfl | rfl
  · obtain rfl := Option.some.inj houtcome
    exact ⟨0, h₁⟩
  · obtain rfl := Option.some.inj houtcome
    exact ⟨expedite, h₂⟩
  · obtain rfl := Option.some.inj houtcome
    exact ⟨transfer, h₃⟩
  · obtain rfl := Option.some.inj houtcome
    exact ⟨0, h₄⟩
  · -- the alternate source keeps the outcome of doing nothing
    simp only [betaOption] at houtcome
    split_ifs at houtcome
    obtain rfl := Option.some.inj houtcome
    exact ⟨0, h₁⟩
  · obtain rfl := Option.some.inj houtcome
    exact ⟨combined, h₅⟩

/-- The options compared: each second one counts on more supply than the first. -/
def supplyImprovements : List (ResponseOptionKind × ResponseOptionKind) :=
  [(.noMitigation, .expedite), (.noMitigation, .transfer), (.resequence, .combined)]

theorem supplyImprovements_supplies {kinds : ResponseOptionKind × ResponseOptionKind}
    (h : kinds ∈ supplyImprovements) :
    (interventionOf snapshot kinds.1).resequence = (interventionOf snapshot kinds.2).resequence ∧
      SuppliesAtLeast (interventionOf snapshot kinds.1).supplies
        (interventionOf snapshot kinds.2).supplies := by
  have hmem : ∀ i ∈ interventions snapshot, SuppliesAtLeast [] i.supplies := fun i hi date =>
    suppliedOn_nonneg (interventions_quantities hi) date
  simp only [supplyImprovements, List.mem_cons, List.not_mem_nil, or_false] at h
  rcases h with rfl | rfl | rfl
  · exact ⟨rfl, hmem (.expedite snapshot) (by simp [interventions])⟩
  · exact ⟨rfl, hmem (.transfer snapshot) (by simp [interventions])⟩
  · exact ⟨rfl, hmem (.combined snapshot) (by simp [interventions])⟩

/-- More supply never predicts a worse outcome: not for the options of a
snapshot, and for any sequence of orders not for a single order; and only the
units that each date brings count. -/
theorem moreSupply_noWorse :
    (∀ snapshot : OperationalSnapshot, snapshot.Valid → 0 ≤ disruptedStock snapshot →
      ∀ options, evaluateResponseOptions snapshot = .ok options →
      ∀ option ∈ options, ∀ better ∈ options,
      (option.optionKind, better.optionKind) ∈ supplyImprovements →
      coveredBy snapshot (interventionOf snapshot option.optionKind) ⊆
        coveredBy snapshot (interventionOf snapshot better.optionKind) ∧
      ∀ p ∈ option.predicted, ∀ q ∈ better.predicted, NoWorse p q) ∧
    (∀ (orders : List ProductionOrder) (stock stock' : ℤ)
      (receipts transfers receipts' transfers' : List TimedQuantity)
      (allocation allocation' : ComponentSupplyAllocation), stock ≤ stock' →
      SuppliesAtLeast (receipts ++ transfers) (receipts' ++ transfers') →
      allocateComponentSupply stock receipts transfers orders = .ok allocation →
      allocateComponentSupply stock' receipts' transfers' orders = .ok allocation' →
      NoMoreUncovered allocation.assignments allocation'.assignments) ∧
    (∀ (supplies : List TimedQuantity) (s : TimedQuantity), 0 ≤ s.quantity →
      SuppliesAtLeast supplies (s :: supplies)) ∧
    (∀ (orders : List ProductionOrder) (stock : ℤ)
      (receipts transfers receipts' transfers' : List TimedQuantity),
      SameSupplies (receipts ++ transfers) (receipts' ++ transfers') →
      allocateComponentSupply stock receipts transfers orders =
        allocateComponentSupply stock receipts' transfers' orders) ∧
    (∀ supplies supplies' : List TimedQuantity, supplies.Perm supplies' →
      SameSupplies supplies supplies') ∧
    ∀ (before parts after : List TimedQuantity) (s : TimedQuantity),
      (∀ t ∈ parts, t.date = s.date) → (parts.map TimedQuantity.quantity).sum = s.quantity →
      SameSupplies (before ++ [s] ++ after) (before ++ parts ++ after) := by
  refine ⟨?_, ?_, ?_, ?_, ?_, ?_⟩
  · intro snapshot hvalid _ options hoptions option hoption better hbetter hkinds
    obtain ⟨hsequence, hsupplies⟩ := @supplyImprovements_supplies snapshot _ hkinds
    refine ⟨(coveredBy_sublist hsequence hsupplies).subset, fun p hp q hq => ?_⟩
    obtain ⟨cost, hp⟩ := predicted_of_kind hoptions hoption hp
    obtain ⟨cost', hq⟩ := predicted_of_kind hoptions hbetter hq
    exact noWorse_of_suppliesAtLeast hvalid hsequence hsupplies hp hq
  · intro orders stock stock' receipts transfers receipts' transfers' allocation allocation' hstock
      hsupplies hok hok'
    exact uncovered_le_of_suppliesAtLeast hstock hsupplies hok hok'
  · intro supplies s hs date
    have hadd := @suppliedOn_append [s] supplies date
    have hnonneg : 0 ≤ suppliedOn [s] date :=
      suppliedOn_nonneg (fun t ht => by rwa [List.mem_singleton.mp ht]) date
    rw [List.singleton_append] at hadd
    omega
  · intro orders stock receipts transfers receipts' transfers' h
    exact allocateComponentSupply_congr h stock
  · exact fun supplies supplies' h => sameSupplies_of_perm h
  · intro before parts after s hdate hsum date
    simp only [suppliedOn_append, suppliedOn_parts hdate hsum date]

theorem moreSupply_noWorse_sample :
    (∃ options, evaluateResponseOptions (.rl001 "RL-CASE-1" .fallback) = .ok options ∧
      ∀ option ∈ options, ∀ better ∈ options,
        (option.optionKind, better.optionKind) ∈ supplyImprovements →
        ∀ p ∈ option.predicted, ∀ q ∈ better.predicted, NoWorse p q) ∧
    SuppliesAtLeast [] [⟨6, 5, "R"⟩] := by
  have hok : (evaluateResponseOptions (.rl001 "RL-CASE-1" .fallback)).toBool = true := by
    decide +kernel
  obtain ⟨options, hoptions⟩ : ∃ options,
      evaluateResponseOptions (.rl001 "RL-CASE-1" .fallback) = .ok options := by
    revert hok
    cases evaluateResponseOptions (.rl001 "RL-CASE-1" .fallback) with
    | error e => exact nofun
    | ok options => exact fun _ => ⟨options, rfl⟩
  have hstock : 0 ≤ disruptedStock (.rl001 "RL-CASE-1" .fallback) := by decide +kernel
  refine ⟨⟨options, hoptions, fun option hoption better hbetter hkinds => ?_⟩,
    moreSupply_noWorse.2.2.1 [] ⟨6, 5, "R"⟩ (by decide)⟩
  exact (moreSupply_noWorse.1 _ (OperationalSnapshot.rl001_valid _ _) hstock options hoptions option
    hoption better hbetter hkinds).2

end SupplyResponse
