/-
The action planner (`services/execution/planner.py`).

* `actionKindsFor` — the action kinds of an option, in execution order;
* `actionDisplay` — the texts of an action, from the approved snapshot;
* `buildAction`, `planActions` — the planned actions of an approved Decision;
* `planActions_spec` — what a plan consists of.
-/
import Mathlib.Data.Rat.Floor
import SupplyResponse.Services.Currentness

namespace SupplyResponse

variable (env : Env)

/-! ### Labels -/

/-- `{value:,}`. -/
def thousands (value : Nat) : String :=
  let digits := (toString value).toList.reverse
  let groups := digits.toChunks 3
  String.ofList (",".toList.intercalate groups).reverse

/-- `{value:.2f}`: two places, halves to even. -/
def twoPlaces (value : Money) : String :=
  let scaled := |value| * 100
  let floor := ⌊scaled⌋.toNat
  let rest := scaled - ⌊scaled⌋
  let cents :=
    if rest < 1 / 2 then floor
    else if 1 / 2 < rest then floor + 1
    else floor + floor % 2
  let fraction := toString (cents % 100)
  (if value < 0 then "-" else "") ++ toString (cents / 100) ++ "." ++
    (if cents % 100 < 10 then "0" ++ fraction else fraction)

/-- The year, month and day of a date. -/
def Date.civil (date : Date) : ℤ × ℤ × ℤ :=
  let z := date + 305
  let era := z / 146097
  let doe := z % 146097
  let yoe := (doe - doe / 1460 + doe / 36524 - doe / 146096) / 365
  let doy := doe - (365 * yoe + yoe / 4 - yoe / 100)
  let mp := (5 * doy + 2) / 153
  let day := doy - (153 * mp + 2) / 5 + 1
  let month := if mp < 10 then mp + 3 else mp - 9
  (yoe + era * 400 + (if month ≤ 2 then 1 else 0), month, day)

/-- `{value:%B}`. -/
def monthName (month : ℤ) : String :=
  ["January", "February", "March", "April", "May", "June", "July", "August", "September",
    "October", "November", "December"].getD (month.toNat - 1) ""

/-- `_date_label`. -/
def dateLabel (date : Date) : String :=
  let (year, month, day) := date.civil
  s!"{monthName month} {day}, {year}"

/-- `str.title()` on a label: the first letter of each run of letters is upper
case, the others lower case. -/
def titleCase (previousIsLetter : Bool) : List Char → List Char
  | [] => []
  | c :: rest => (if previousIsLetter then c.toLower else c.toUpper) :: titleCase c.isAlpha rest

/-- `str.removeprefix`. -/
def removePrefix (text beginning : List Char) : List Char :=
  if beginning.isPrefixOf text then text.drop beginning.length else text

/-- `_entity_label`. -/
def entityLabel (identifier beginning : String) : String :=
  let value := removePrefix identifier.toList beginning.toList
  if value = "CHI".toList then "Chicago"
  else if value = "DAL".toList then "Dallas"
  else String.ofList (titleCase false (value.map fun c => if c = '-' then ' ' else c))

example : dateLabel 739860 = "September 1, 2026" := by decide +kernel

example : entityLabel "RL-SUP-ALPHA-METALS" "RL-SUP-" = "Alpha Metals" := by decide +kernel

/-! ### Actions of an option -/

/-- `action_kinds_for`. -/
def actionKindsFor : ResponseOptionKind → Except Raised (List ExecutionActionKind)
  | .expedite =>
    .ok [.prepareAlphaRecoveryDraft, .coordinateAlphaExpeditedPartial, .updateDisruptionStatus]
  | .transfer =>
    .ok [.prepareAlphaRecoveryDraft, .transferDallasToChicago, .updateDisruptionStatus]
  | .resequence =>
    .ok [.prepareAlphaRecoveryDraft, .resequencePriorityProduction, .updateDisruptionStatus]
  | .combined => .ok ExecutionActionKind.all
  | _ => .error ⟨.valueError, "Decision does not identify a current executable option"⟩

/-- `deterministic_action_id`. -/
def deterministicActionId (decisionId : String) (kind : ExecutionActionKind) : String :=
  "RL-ACTION-" ++ env.uuid5 (decisionId ++ ":" ++ kind.value)

/-- `deterministic_draft_artifact_id`. -/
def deterministicDraftArtifactId (decisionId : String) : String :=
  "RL-DRAFT-" ++ env.uuid5 (decisionId ++ ":alpha_recovery_request")

/-! ### Texts -/

/-- The customer orders that a resequencing protects: those of the option, or
the ones of highest priority. -/
def protectedIds (decision : Decision) (snapshot : OperationalSnapshot) : List String :=
  let named := ((decision.selectedOption.bind ResponseOption.predicted).map
    PredictedOutcome.protectedCustomerOrderIds).getD []
  if named ≠ [] then named
  else
    let bound := snapshot.productionOrders.filter fun o => o.customerOrderId.isSome
    let highest := (bound.filterMap ProductionOrder.customerPriority).min?
    (bound.filter fun o => o.customerPriority.isSome ∧ o.customerPriority = highest).filterMap
      ProductionOrder.customerOrderId

/-- The texts of a resequencing. -/
def resequenceDisplay (decision : Decision) (snapshot : OperationalSnapshot) :
    Except Raised (String × String × ExecutionMode) :=
  let ids := protectedIds decision snapshot
  let orders := snapshot.customerOrders.filter fun o => o.customerOrderLineId ∈ ids
  if orders.length = ids.length then
    let names := ", ".intercalate (orders.map CustomerOrder.customerOrderLineId)
    let results := "; ".intercalate (orders.map fun o =>
      let plant := entityLabel o.plantId "RL-PLANT-"
      s!"{o.customerOrderLineId} at {plant} due {dateLabel o.dueDate}")
    .ok (s!"Resequence priority production to protect customer order(s) {names}.",
      s!"Production is simulated as prioritized for {results}.", .simulation)
  else .error ⟨.valueError, "approved option names an unknown protected customer order"⟩

/-- The texts of an expedite. -/
def expediteDisplay (supplier plant : String) :
    Option SupplyReceiptOption → Except Raised (String × String × ExecutionMode)
  | none => .error ⟨.valueError, "approved Analysis snapshot lacks Alpha expedite details"⟩
  | some e =>
    .ok (s!"Coordinate {thousands e.quantity} expedited units from {supplier} to {plant} by {dateLabel e.dueDate} at ${twoPlaces e.incrementalCostPerUnit} per unit.",
      s!"{thousands e.quantity} units are simulated as arriving at {plant} on {dateLabel e.dueDate}.",
      .simulation)

/-- `_action_display`: purpose, expected result and mode of an action. -/
def actionDisplay (decision : Decision) (snapshot : OperationalSnapshot) :
    ExecutionActionKind → Except Raised (String × String × ExecutionMode)
  | .prepareAlphaRecoveryDraft =>
    let supplier := entityLabel snapshot.disruption.supplierId "RL-SUP-"
    .ok (s!"Prepare supplier communication to {supplier} about disruption {snapshot.disruption.disruptionId} for {snapshot.disruption.partId}.",
      "An unsent supplier recovery-request draft is ready for Alex's review.",
      .communicationPreparation)
  | .coordinateAlphaExpeditedPartial =>
    expediteDisplay (entityLabel snapshot.disruption.supplierId "RL-SUP-")
      (entityLabel snapshot.disruption.plantId "RL-PLANT-") snapshot.alphaExpedite
  | .transferDallasToChicago =>
    let t := snapshot.transfer
    let source := entityLabel t.sourcePlantId "RL-PLANT-"
    let destination := entityLabel t.destinationPlantId "RL-PLANT-"
    .ok (s!"Coordinate a {thousands t.quantity}-unit transfer from {source} to {destination}, arriving {dateLabel t.arrivalDate} at ${twoPlaces t.incrementalCostPerUnit} per unit.",
      s!"{thousands t.quantity} units are simulated as available in {destination} on {dateLabel t.arrivalDate}.",
      .simulation)
  | .resequencePriorityProduction => resequenceDisplay decision snapshot
  | .updateDisruptionStatus =>
    let plant := entityLabel snapshot.disruption.plantId "RL-PLANT-"
    .ok (s!"Update disruption {snapshot.disruption.disruptionId} status for {snapshot.disruption.partId} at {plant}.",
      "The system status reflects the approved mitigation coordination.", .simulation)

/-! ### Plans -/

/-- The planned action of a kind with its texts. -/
def plannedAction (decision : Decision) (kind : ExecutionActionKind)
    (display : String × String × ExecutionMode) : ExecutionAction where
  actionId := deterministicActionId env decision.decisionId kind
  caseId := decision.caseId
  decisionId := decision.decisionId
  kind := kind
  ownerKind := if kind = .updateDisruptionStatus then .system else .persona
  ownerPersonaId := if kind = .updateDisruptionStatus then none else some "RL-PERSONA-ALEX"
  status := .planned
  createdAt := decision.decidedAt
  draftArtifactId :=
    if kind = .prepareAlphaRecoveryDraft then
      some (deterministicDraftArtifactId env decision.decisionId)
    else none
  purpose := some display.1
  expectedResult := some display.2.1
  executionMode := some display.2.2
  ownerValid := by
    by_cases h : kind = .updateDisruptionStatus
    · simp only [if_pos h, and_self]
    · simp only [if_neg h, and_self]
  draftValid := by
    by_cases h : kind = .prepareAlphaRecoveryDraft
    · simp [h]
    · simp [h]

/-- `build_action`. -/
def buildAction (decision : Decision) (snapshot : OperationalSnapshot)
    (kind : ExecutionActionKind) : Except Raised ExecutionAction := do
  let display ← actionDisplay decision snapshot kind
  pure (plannedAction env decision kind display)

/-- The option that an approved Decision plans, if it still is the analysis's. -/
def Decision.plannedOption (decision : Decision) (analysis : AnalysisVersion) :
    Option ResponseOption :=
  decision.selectedOption.filter fun option =>
    decision.analysisId = analysis.analysisId ∧
      decision.analysisMaterialHash = analysis.materialHash ∧
      decision.selectedOptionId = some option.optionId ∧ option.executable = true

/-- `plan_actions`. -/
def planActions (decision : Decision) (analysis : AnalysisVersion) :
    Except Raised (List ExecutionAction) := do
  ensure (decision.kind = .approved) ⟨.valueError, "actions require an approved Decision"⟩
  let option ← (decision.plannedOption analysis).elim
    (.error ⟨.valueError, "Decision does not identify a current executable option"⟩) .ok
  let kinds ← actionKindsFor option.optionKind
  kinds.mapM (buildAction env decision analysis.material.operationalSnapshotJson)

/-! ### What a plan consists of -/

theorem actionKindsFor_nodup {option : ResponseOptionKind} {kinds : List ExecutionActionKind}
    (h : actionKindsFor option = .ok kinds) : kinds.Nodup := by
  cases option <;> simp only [actionKindsFor, reduceCtorEq, Except.ok.injEq] at h <;>
    subst h <;> decide

/-- An action as the planner builds it for the Decision. -/
def ExecutionAction.PlannedFor (decision : Decision) (action : ExecutionAction) : Prop :=
  action.decisionId = decision.decisionId ∧ action.caseId = decision.caseId ∧
    action.status = .planned ∧
    action.actionId = deterministicActionId env decision.decisionId action.kind

theorem buildAction_spec {decision : Decision} {snapshot : OperationalSnapshot}
    {kind : ExecutionActionKind} {action : ExecutionAction}
    (h : buildAction env decision snapshot kind = .ok action) :
    action.kind = kind ∧ action.PlannedFor env decision := by
  obtain ⟨display, -, hb⟩ := bind_eq_ok.mp h
  obtain rfl := Except.ok.inj hb
  exact ⟨rfl, rfl, rfl, rfl, rfl⟩

theorem buildActions_spec {decision : Decision} {snapshot : OperationalSnapshot}
    {kinds : List ExecutionActionKind} {actions : List ExecutionAction}
    (h : List.Forall₂ (fun kind action => buildAction env decision snapshot kind = .ok action)
      kinds actions) :
    actions.map ExecutionAction.kind = kinds ∧ ∀ action ∈ actions, action.PlannedFor env decision := by
  induction h with
  | nil => exact ⟨rfl, by simp⟩
  | cons hbuild _ ih =>
    obtain ⟨hkind, hfor⟩ := buildAction_spec env hbuild
    refine ⟨by rw [List.map_cons, hkind, ih.1], fun a ha => ?_⟩
    rcases List.mem_cons.mp ha with rfl | ha
    · exact hfor
    · exact ih.2 a ha

/-- A plan has one planned action of the Decision for each kind of its option. -/
theorem planActions_spec {decision : Decision} {analysis : AnalysisVersion}
    {actions : List ExecutionAction} (h : planActions env decision analysis = .ok actions) :
    decision.kind = .approved ∧ ∃ option kinds, decision.selectedOption = some option ∧
      actionKindsFor option.optionKind = .ok kinds ∧
      actions.map ExecutionAction.kind = kinds ∧
      ∀ action ∈ actions, action.PlannedFor env decision := by
  unfold planActions at h
  obtain ⟨_, hkind, h⟩ := bind_eq_ok.mp h
  obtain ⟨option, hoption, h⟩ := bind_eq_ok.mp h
  obtain ⟨kinds, hkinds, hplan⟩ := bind_eq_ok.mp h
  obtain ⟨option', hoption', rfl⟩ := elim_eq_ok (f := id) hoption
  have hsel : decision.selectedOption = some option' := by
    unfold Decision.plannedOption at hoption'
    exact (Option.filter_eq_some_iff.mp hoption').1
  exact ⟨ensure_eq_ok.mp hkind, option', kinds, hsel, hkinds,
    buildActions_spec env (mapM_eq_ok hplan)⟩

end SupplyResponse
