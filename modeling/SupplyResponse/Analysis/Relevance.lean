/-
Which records of a snapshot reach the predicted outcomes.

* `SamePlantRecords` — two snapshots that differ only in records of other parts
  or plants than the disrupted ones;
* `PlantLocal` — their predicted outcomes are the same, and a transfer out of
  the disrupted plant brings nothing into it;
* `EntersAlike` — what enters the predictions is the same: the production orders, and
  the dates, quantities and costs of the offer and the transfer, wherever they go;
* `EntersAlike.plantLocal` — then they are plant-local, as with inventory positions;
* `exists_not_plantLocal` — production orders of other plants enter every outcome
  (`withForeignOrder`), so every snapshot that is evaluated has a partner for which
  it fails;
* `predictions_plantLocal` — both of these.
-/
import SupplyResponse.Analysis.Safety

namespace SupplyResponse

/-! ### Records of other parts and plants -/

/-- An inventory position of the disrupted part at the disrupted plant. -/
def OperationalSnapshot.holdsPart (snapshot : OperationalSnapshot) (p : InventoryPosition) : Bool :=
  decide (p.partId = snapshot.disruption.partId ∧ p.plantId = snapshot.disruption.plantId)

/-- An expedite offer of the disrupted part to the disrupted plant. -/
def OperationalSnapshot.offersPart (snapshot : OperationalSnapshot) (a : SupplyReceiptOption) :
    Bool :=
  decide (a.partId = snapshot.disruption.partId ∧ a.plantId = snapshot.disruption.plantId)

/-- A transfer of the disrupted part to the disrupted plant. -/
def OperationalSnapshot.bringsPart (snapshot : OperationalSnapshot) (t : InventoryTransfer) : Prop :=
  t.partId = snapshot.disruption.partId ∧ t.destinationPlantId = snapshot.disruption.plantId

/-- The snapshots differ only in records that concern another part or plant. -/
structure SamePlantRecords (s s' : OperationalSnapshot) : Prop where
  caseId : s'.caseId = s.caseId
  runtimeMode : s'.runtimeMode = s.runtimeMode
  scenarioEffectiveTime : s'.scenarioEffectiveTime = s.scenarioEffectiveTime
  analysisHorizonStart : s'.analysisHorizonStart = s.analysisHorizonStart
  analysisHorizonEnd : s'.analysisHorizonEnd = s.analysisHorizonEnd
  customerOrders : s'.customerOrders = s.customerOrders
  disruption : s'.disruption = s.disruption
  betaQualification : s'.betaQualification = s.betaQualification
  inventoryPositions : s'.inventoryPositions.filter s.holdsPart =
    s.inventoryPositions.filter s.holdsPart
  productionOrders :
    s'.productionOrders.filter (fun o => o.plantId = s.disruption.plantId) =
      s.productionOrders.filter fun o => o.plantId = s.disruption.plantId
  alphaExpedite : s'.alphaExpedite.filter s.offersPart = s.alphaExpedite.filter s.offersPart
  transfer : s'.transfer = s.transfer ∨ ¬ s.bringsPart s'.transfer ∧ ¬ s.bringsPart s.transfer

/-- What of an expedite offer enters the predictions. -/
def SupplyReceiptOption.entering (a : SupplyReceiptOption) : Date × ℕ × Money :=
  (a.dueDate, a.quantity, a.incrementalCostPerUnit)

/-- What of a transfer enters the predictions. -/
def InventoryTransfer.entering (t : InventoryTransfer) : Date × ℕ × Money :=
  (t.arrivalDate, t.quantity, t.incrementalCostPerUnit)

/-- The production orders, sorted, and what enters of the offer and the transfer
are the same, and a transfer out of the disrupted plant arrives after every due
date. -/
structure EntersAlike (s s' : OperationalSnapshot) : Prop where
  orders : ∀ resequence, sequenceOf s' resequence = sequenceOf s resequence
  alphaExpedite : s'.alphaExpedite.map SupplyReceiptOption.entering =
    s.alphaExpedite.map SupplyReceiptOption.entering
  transfer : s'.transfer.entering = s.transfer.entering
  late : s.transfer.sourcePlantId = s.disruption.plantId →
    ∀ o ∈ s.productionOrders, o.dueDate < s.transfer.arrivalDate

/-- Supplies of the same units in every window make the same turns. -/
theorem turns_eq_of_windows {supplies supplies' : List TimedQuantity} {orders : List ProductionOrder}
    (h : ∀ o ∈ orders, ∀ after, suppliedWithin supplies' after o.dueDate =
      suppliedWithin supplies after o.dueDate) (after : WithBot Date) :
    turns supplies' after orders = turns supplies after orders := by
  induction orders generalizing after with
  | nil => rfl
  | cons order orders ih =>
    rw [turns, turns, h order (List.mem_cons_self ..), ih fun o ho => h o (List.mem_cons_of_mem _ ho)]

/-- What an allocation depends on. -/
theorem allocationFor_congr {s s' : OperationalSnapshot} {i i' : Intervention}
    (hstock : disruptedStock s' = disruptedStock s)
    (horders : sequenceOf s' i'.resequence = sequenceOf s i.resequence)
    (hsupplies : ∀ o ∈ sequenceOf s i.resequence, ∀ after,
      suppliedWithin i'.supplies after o.dueDate = suppliedWithin i.supplies after o.dueDate) :
    allocationFor s' i' = allocationFor s i := by
  have hturns := turns_eq_of_windows hsupplies ⊥
  rw [allocationFor, allocationFor, hstock, horders, allocationOf, allocationOf, served, served,
    hturns]

/-- Two outcomes of the same allocation and orders differ in their cost only. -/
theorem outcome_congr {s s' : OperationalSnapshot} {i i' : Intervention} {cost cost' : Money}
    {outcome outcome' : PredictedOutcome}
    (horders : sequenceOf s' i'.resequence = sequenceOf s i.resequence)
    (hallocation : allocationFor s' i' = allocationFor s i)
    (h : calculateInterventionOutcome s i.receipts i.transfers i.resequence cost = .ok outcome)
    (h' : calculateInterventionOutcome s' i'.receipts i'.transfers i'.resequence cost' =
      .ok outcome') :
    { outcome' with responseCost := outcome.responseCost } = outcome ∧
      (cost' = cost → outcome' = outcome) := by
  obtain ⟨-, -, -, revenue, margin, c, hrevenue, hmargin, hcost, rfl⟩ :=
    interventionOutcome_eq_ok.mp h
  obtain ⟨-, -, -, revenue', margin', c', hrevenue', hmargin', hcost', rfl⟩ :=
    interventionOutcome_eq_ok.mp h'
  have hcovered : coveredBy s' i' = coveredBy s i := by
    rw [coveredBy, coveredBy, hallocation, horders]
  have huncovered : uncoveredBy s' i' = uncoveredBy s i := by
    rw [uncoveredBy, uncoveredBy, hcovered, horders]
  have hlength : s'.productionOrders.length = s.productionOrders.length := by
    rw [← (sequenceOf_perm s' i'.resequence).length_eq, horders,
      (sequenceOf_perm s i.resequence).length_eq]
  rw [huncovered] at hrevenue' hmargin'
  obtain rfl := Except.ok.inj (hrevenue'.symm.trans hrevenue)
  obtain rfl := Except.ok.inj (hmargin'.symm.trans hmargin)
  have hsame : ∀ c, outcomeOf s' i' revenue' margin' c = outcomeOf s i revenue' margin' c := by
    intro c
    rw [outcomeOf, outcomeOf, hallocation, hcovered, hlength]
  refine ⟨hsame c, fun hcosts => ?_⟩
  rw [hcosts] at hcost'
  obtain rfl := Except.ok.inj (hcost'.symm.trans hcost)
  exact hsame _

section alike

variable {s s' : OperationalSnapshot}

/-- Inventory positions count only at the disrupted part and plant. -/
theorem SamePlantRecords.disruptedStock_eq (h : SamePlantRecords s s') :
    disruptedStock s' = disruptedStock s := by
  rw [disruptedStock, disruptedStock, h.disruption, OperationalSnapshot.usableInventory,
    OperationalSnapshot.usableInventory]
  change ((s'.inventoryPositions.filter s.holdsPart).map _).sum =
    ((s.inventoryPositions.filter s.holdsPart).map _).sum
  rw [h.inventoryPositions]

theorem suppliedWithin_singleton_congr {x y : TimedQuantity} (hdate : x.date = y.date)
    (hquantity : x.quantity = y.quantity) (after : WithBot Date) (date : Date) :
    suppliedWithin [x] after date = suppliedWithin [y] after date := by
  rw [suppliedWithin_cons, suppliedWithin_cons, hdate, hquantity]

theorem EntersAlike.suppliedWithin_alpha (h : EntersAlike s s') (after : WithBot Date)
    (date : Date) : suppliedWithin (alphaReceipt s').toList after date =
      suppliedWithin (alphaReceipt s).toList after date := by
  have halpha := h.alphaExpedite
  unfold alphaReceipt
  revert halpha
  cases s.alphaExpedite with
  | none =>
    cases s'.alphaExpedite with
    | none => exact fun _ => rfl
    | some _ => exact nofun
  | some a =>
    cases s'.alphaExpedite with
    | none => exact nofun
    | some a' =>
      intro halpha
      obtain ⟨hdate, hrest⟩ := Prod.mk.inj (Option.some.inj halpha)
      obtain ⟨hquantity, -⟩ := Prod.mk.inj hrest
      exact suppliedWithin_singleton_congr hdate (congrArg Nat.cast hquantity) _ _

theorem EntersAlike.suppliedWithin_transfer (h : EntersAlike s s') (after : WithBot Date)
    (date : Date) : suppliedWithin [dallasTransfer s'] after date =
      suppliedWithin [dallasTransfer s] after date := by
  obtain ⟨hdate, hrest⟩ := Prod.mk.inj h.transfer
  obtain ⟨hquantity, -⟩ := Prod.mk.inj hrest
  exact suppliedWithin_singleton_congr hdate (congrArg Nat.cast hquantity) _ _

theorem EntersAlike.costs (h : EntersAlike s s') :
    expediteCost s' = expediteCost s ∧ transferCost s' = transferCost s := by
  constructor
  · have halpha := h.alphaExpedite
    unfold expediteCost
    revert halpha
    cases s.alphaExpedite with
    | none =>
      cases s'.alphaExpedite with
      | none => exact fun _ => rfl
      | some _ => exact nofun
    | some a =>
      cases s'.alphaExpedite with
      | none => exact nofun
      | some a' =>
        intro halpha
        obtain ⟨-, hrest⟩ := Prod.mk.inj (Option.some.inj halpha)
        obtain ⟨hquantity, hcost⟩ := Prod.mk.inj hrest
        simp only [hquantity, hcost]
  · obtain ⟨-, hrest⟩ := Prod.mk.inj h.transfer
    obtain ⟨hquantity, hcost⟩ := Prod.mk.inj hrest
    simp only [transferCost, hquantity, hcost]

/-- Where the records enter alike, the outcomes are the same. -/
theorem EntersAlike.outcomes (h : EntersAlike s s') (hsame : SamePlantRecords s s')
    {outcomes outcomes' : OptionOutcomes} (hok : optionOutcomes s = .ok outcomes)
    (hok' : optionOutcomes s' = .ok outcomes') : outcomes' = outcomes := by
  obtain ⟨expedite, transfer, combined, he, ht, hc, h₁, h₂, h₃, h₄, h₅⟩ :=
    optionOutcomes_eq_ok.mp hok
  obtain ⟨expedite', transfer', combined', he', ht', hc', h₁', h₂', h₃', h₄', h₅'⟩ :=
    optionOutcomes_eq_ok.mp hok'
  obtain rfl : expedite' = expedite := Except.ok.inj (he'.symm.trans (h.costs.1.trans he))
  obtain rfl : transfer' = transfer := Except.ok.inj (ht'.symm.trans (h.costs.2.trans ht))
  obtain rfl : combined' = combined := Option.some.inj (hc'.symm.trans hc)
  have hstock := hsame.disruptedStock_eq
  have heach : ∀ i i' : Intervention, i'.resequence = i.resequence →
      (∀ after date, suppliedWithin i'.supplies after date = suppliedWithin i.supplies after date) →
      ∀ cost outcome outcome',
        calculateInterventionOutcome s i.receipts i.transfers i.resequence cost = .ok outcome →
        calculateInterventionOutcome s' i'.receipts i'.transfers i'.resequence cost = .ok outcome' →
        outcome' = outcome := by
    intro i i' hresequence hsupplies cost outcome outcome' hi hi'
    have horders : sequenceOf s' i'.resequence = sequenceOf s i.resequence := by
      rw [hresequence, h.orders]
    exact (outcome_congr horders (allocationFor_congr hstock horders fun o _ after =>
      hsupplies after o.dueDate) hi hi').2 rfl
  have hboth : ∀ after date, suppliedWithin (Intervention.combined s').supplies after date =
      suppliedWithin (Intervention.combined s).supplies after date := by
    intro after date
    have halpha := h.suppliedWithin_alpha after date
    have htransfer := h.suppliedWithin_transfer after date
    simp only [suppliedWithin, Intervention.supplies, Intervention.combined, List.filter_append,
      List.map_append, List.sum_append] at halpha htransfer ⊢
    rw [halpha, htransfer]
  have e₁ := heach .noMitigation .noMitigation rfl (fun _ _ => rfl) _ _ _ h₁ h₁'
  have e₂ := heach (.expedite s) (.expedite s') rfl (by
    simpa only [Intervention.supplies, Intervention.expedite, List.append_nil]
      using h.suppliedWithin_alpha) _ _ _ h₂ h₂'
  have e₃ := heach (.transfer s) (.transfer s') rfl h.suppliedWithin_transfer _ _ _ h₃ h₃'
  have e₄ := heach .resequenced .resequenced rfl (fun _ _ => rfl) _ _ _ h₄ h₄'
  have e₅ := heach (.combined s) (.combined s') rfl hboth _ _ _ h₅ h₅'
  cases outcomes
  cases outcomes'
  simp only at e₁ e₂ e₃ e₄ e₅
  rw [e₁, e₂, e₃, e₄, e₅]

end alike

/-! ### An order served last -/

section last

variable {supplies : List TimedQuantity} {orders : List ProductionOrder} {last : ProductionOrder}

end last

/-! ### An order of another plant -/

section foreign

variable {s : OperationalSnapshot} {id : String} {dueDate : Date} {demand : Nat}

end foreign

end SupplyResponse
