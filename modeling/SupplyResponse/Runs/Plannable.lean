/-
Which approved Decisions have a plan.

* `ApprovedOn`, `Accepts` — an approval, in either workflow, is of an executable
  option of the analysis that is stored under its id;
* `namedOrders`, `Plannable` — the kinds of options that have actions, and the
  customer orders that a resequencing speaks of;
* `approved_planned_iff` — an approval is planned exactly when its option is
  plannable;
* `approved_unplanned` — an approved alternate source.
-/
import SupplyResponse.Analysis.Executability
import SupplyResponse.Services.Finalization
import SupplyResponse.Services.Planner

namespace SupplyResponse

open Transact Transact.Prog

/-! ### Accepted approvals -/

/-- An approved Decision is of an executable option of the analysis. -/
structure ApprovedOn (decision : Decision) (analysis : AnalysisVersion) (option : ResponseOption) :
    Prop where
  kind : decision.kind = .approved
  analysisId : decision.analysisId = analysis.analysisId
  hash : decision.analysisMaterialHash = analysis.materialHash
  selected : decision.selectedOption = some option
  selectedId : decision.selectedOptionId = some option.optionId
  mem : option ∈ analysis.responseOptions
  executable : option.executable = true

theorem selectedOption_eq_ok {command : RecordDecisionCommand} {analysis : AnalysisVersion}
    {option : ResponseOption} (h : selectedOption command analysis = .ok option) :
    command.selectedOptionId.bind analysis.option? = some option ∧ option.executable = true := by
  obtain ⟨found, hfound, h⟩ := bind_eq_ok.mp h
  obtain ⟨_, -, h⟩ := bind_eq_ok.mp h
  obtain ⟨_, hexecutable, h⟩ := bind_eq_ok.mp h
  obtain ⟨_, -, h⟩ := bind_eq_ok.mp h
  obtain ⟨_, -, h⟩ := bind_eq_ok.mp h
  obtain rfl := Except.ok.inj h
  obtain ⟨_, hsome, rfl⟩ := elim_eq_ok (f := id) hfound
  exact ⟨hsome, (ensure_eq_ok.mp hexecutable).1⟩

/-- The option of an approval comes from the analysis under the id that was asked for. -/
theorem approvedOn_fromCommand {decision : Decision} {command : RecordDecisionCommand}
    {actor : IdentitySnapshot} {analysis : AnalysisVersion}
    {satisfactions : List ApprovalSatisfaction} {decisionId fingerprint : String}
    {decidedAt : Instant} {evidence : Option ProposalApprovalEvidence} {option : ResponseOption}
    (hfields : decision.toDecisionRecord = Decision.fromCommand command actor analysis
      satisfactions decisionId fingerprint decidedAt evidence)
    (hkind : command.kind = .approved) (hid : command.analysisId = analysis.analysisId)
    (hselected : selectedOption command analysis = .ok option) :
    ApprovedOn decision analysis option := by
  obtain ⟨hfound, hexecutable⟩ := selectedOption_eq_ok hselected
  obtain ⟨id, hsome, hoption⟩ := Option.bind_eq_some_iff.mp hfound
  have hoptionId : option.optionId = id := by
    rw [AnalysisVersion.option?] at hoption
    simpa using List.find?_some hoption
  refine ⟨?_, ?_, ?_, ?_, ?_, List.mem_of_find?_eq_some hoption, hexecutable⟩
  · rw [hfields]
    exact hkind
  · rw [hfields]
    exact hid
  · rw [hfields]
    rfl
  · rw [hfields]
    exact hfound
  · rw [hfields, hoptionId]
    exact hsome

section

variable {env : Env}

theorem recordTransaction_approvedOn {command : RecordDecisionCommand} {actor : IdentitySnapshot}
    {decisionUuid eventUuid : String} {decidedAt : Instant} {s s' : Store} {decision : Decision}
    (h : (recordTransaction env command actor decisionUuid eventUuid decidedAt).Commits s decision
      s') (hkind : decision.kind = .approved) :
    ∃ analysis option, s.analyses.get? (.analysis decision.analysisId) = some analysis ∧
      ApprovedOn decision analysis option := by
  obtain ⟨existing, hexisting, h⟩ := (readOnly_getDecisionByKey env _).returns_bind.mp h
  rcases existing with _ | stored
  · obtain ⟨p, -, h⟩ := (readOnly_getProjection env _).returns_bind.mp h
    obtain ⟨-, h⟩ := returns_require_bind.mp h
    obtain ⟨analysis, hanalysis, h⟩ := (readOnly_getAnalysis env _).returns_bind.mp h
    obtain ⟨-, hget, -⟩ := returns_getAnalysis env hanalysis
    rw [returns_ofExcept_bind] at h
    obtain ⟨satisfactions, hauth, h⟩ := h
    rw [returns_orRaise_bind] at h
    obtain ⟨d, hd, h⟩ := h
    have hfields := DecisionRecord.validate?_spec hd
    obtain ⟨_, s₁, -, h⟩ := returns_bind.mp h
    obtain ⟨heq, -⟩ := returns_done.mp h
    obtain rfl : decision = d := by injection heq
    have hcommand : command.kind = .approved := by
      rw [← hkind, hfields]
      rfl
    have hid := (analysisId_of_get? hget).symm
    obtain ⟨_, -, hauth⟩ := bind_eq_ok.mp hauth
    obtain ⟨_, -, hauth⟩ := bind_eq_ok.mp hauth
    rw [if_neg (by rw [hcommand]; decide)] at hauth
    obtain ⟨option, hselected, -⟩ := bind_eq_ok.mp hauth
    refine ⟨analysis, option, ?_, approvedOn_fromCommand hfields hcommand hid hselected⟩
    rw [hfields]
    exact hget
  · obtain ⟨_, -, heq⟩ := returns_map.mp h
    cases heq

theorem finalizeTransaction_approvedOn {command : FinalizeProposalCommand}
    {actor : IdentitySnapshot} {decisionUuid eventUuid : String} {clock : ClockReading}
    {s s' : Store} {decision : Decision}
    (h : (finalizeTransaction env command actor decisionUuid eventUuid clock).Commits s decision
      s') (hkind : decision.kind = .approved) :
    ∃ analysis option, s.analyses.get? (.analysis decision.analysisId) = some analysis ∧
      ApprovedOn decision analysis option := by
  unfold Commits at h
  simp only [finalizeTransaction, requireAlex, returns_require_bind] at h
  obtain ⟨-, h⟩ := h
  obtain ⟨existing, -, h⟩ := (readOnly_getDecisionByKey env _).returns_bind.mp h
  rcases existing with _ | stored
  · obtain ⟨st, -, h⟩ := (readOnly_getState env _).returns_bind.mp h
    obtain ⟨-, h⟩ := returns_require_bind.mp h
    obtain ⟨-, h⟩ := returns_require_bind.mp h
    obtain ⟨p, -, h⟩ := (readOnly_getProjection env _).returns_bind.mp h
    obtain ⟨-, h⟩ := returns_require_bind.mp h
    obtain ⟨analysisId, -, h⟩ := returns_orRaise_bind.mp h
    obtain ⟨analysis, hanalysis, h⟩ := (readOnly_getAnalysis env _).returns_bind.mp h
    obtain ⟨-, hget, -⟩ := returns_getAnalysis env hanalysis
    obtain ⟨-, h⟩ := returns_require_bind.mp h
    obtain ⟨evidence, -, h⟩ := (readOnly_finalizationEvidence env _ _ _).returns_bind.mp h
    rw [returns_orRaise_bind] at h
    obtain ⟨record, hrecord, h⟩ := h
    obtain ⟨-, hra, -, -⟩ := RecordDecisionCommand.validate?_spec hrecord
    rw [returns_ofExcept_bind] at h
    obtain ⟨satisfactions, hauth, h⟩ := h
    obtain ⟨decidedAt, -, h⟩ := returns_orRaise_bind.mp h
    rw [returns_orRaise_bind] at h
    obtain ⟨d, hd, h⟩ := h
    have hfields := DecisionRecord.validate?_spec hd
    obtain ⟨_, s₁, -, h⟩ := returns_bind.mp h
    obtain ⟨_, s₂, -, h⟩ := returns_bind.mp h
    obtain ⟨heq, -⟩ := returns_done.mp h
    obtain rfl : decision = d := by injection heq
    have hcommand : record.kind = .approved := by
      rw [← hkind, hfields]
      rfl
    obtain ⟨_, -, hauth⟩ := bind_eq_ok.mp hauth
    obtain ⟨_, -, hauth⟩ := bind_eq_ok.mp hauth
    rw [if_neg (by rw [hcommand]; decide)] at hauth
    cases evidence with
    | none => cases hauth
    | some evidence =>
      obtain ⟨option, hselected, -⟩ := bind_eq_ok.mp hauth
      refine ⟨analysis, option, ?_, approvedOn_fromCommand hfields hcommand hra hselected⟩
      rw [hfields]
      have hid : (Decision.fromCommand record actor analysis satisfactions
          ("RL-DECISION-" ++ decisionUuid) (finalizationFingerprint env command actor) decidedAt
          (some evidence)).analysisId = analysisId := hra.trans (analysisId_of_get? hget)
      rw [hid]
      exact hget
  · obtain ⟨_, -, heq⟩ := returns_map.mp h
    cases heq

variable (env) in
/-- A Decision that one of the two services committed. -/
inductive Accepts (s : Store) (decision : Decision) (s' : Store) : Prop
  | record {command : RecordDecisionCommand} {actor : IdentitySnapshot}
    {decisionUuid eventUuid : String} {decidedAt : Instant}
    (h : (recordTransaction env command actor decisionUuid eventUuid decidedAt).Commits s decision
      s') : Accepts s decision s'
  | finalize {command : FinalizeProposalCommand} {actor : IdentitySnapshot}
    {decisionUuid eventUuid : String} {clock : ClockReading}
    (h : (finalizeTransaction env command actor decisionUuid eventUuid clock).Commits s decision
      s') : Accepts s decision s'

theorem Accepts.approvedOn {s s' : Store} {decision : Decision}
    (h : Accepts env s decision s') (hkind : decision.kind = .approved) :
    ∃ analysis option, s.analyses.get? (.analysis decision.analysisId) = some analysis ∧
      ApprovedOn decision analysis option := by
  cases h with
  | record h => exact recordTransaction_approvedOn h hkind
  | finalize h => exact finalizeTransaction_approvedOn h hkind

end

/-! ### Options with a plan -/

/-- The order is for a customer, and no other such order has a higher priority. -/
def TopPriority (orders : List ProductionOrder) (order : ProductionOrder) : Prop :=
  order.customerOrderId.isSome = true ∧ ∃ priority ∈ order.customerPriority,
    ∀ other ∈ orders, other.customerOrderId.isSome = true →
      ∀ q ∈ other.customerPriority, priority ≤ q

instance (orders : List ProductionOrder) : DecidablePred (TopPriority orders) :=
  fun _ => inferInstanceAs (Decidable (_ ∧ _))

/-- The customer orders that the option is predicted to protect. -/
def protectedBy (option : ResponseOption) : List String :=
  (option.predicted.map PredictedOutcome.protectedCustomerOrderIds).getD []

/-- The customer orders that the option protects; if it protects none, those of
the orders of highest priority. -/
def namedOrders (snapshot : OperationalSnapshot) (option : ResponseOption) : List String :=
  if protectedBy option ≠ [] then protectedBy option
  else (snapshot.productionOrders.filter (TopPriority snapshot.productionOrders)).filterMap
    ProductionOrder.customerOrderId

/-- The ids are of distinct customer orders of the snapshot. -/
def KnownOrders (snapshot : OperationalSnapshot) (ids : List String) : Prop :=
  ids.Nodup ∧ ∀ id ∈ ids, id ∈ snapshot.customerOrders.map CustomerOrder.customerOrderLineId

/-- The option has actions, and where it resequences it names known customer orders. -/
def Plannable (snapshot : OperationalSnapshot) (option : ResponseOption) : Prop :=
  option.optionKind ≠ .alternateSource ∧
    (option.optionKind = .resequence ∨ option.optionKind = .combined →
      KnownOrders snapshot (namedOrders snapshot option))

instance (snapshot : OperationalSnapshot) (ids : List String) : Decidable (KnownOrders snapshot ids) :=
  inferInstanceAs (Decidable (_ ∧ _))

instance (snapshot : OperationalSnapshot) (option : ResponseOption) :
    Decidable (Plannable snapshot option) :=
  inferInstanceAs (Decidable (_ ∧ (_ → _)))

/-- As many records carry one of the ids as there are ids: all are known, once each. -/
theorem length_filter_eq_iff {α : Type} {f : α → String} {l : List α} (hl : (l.map f).Nodup)
    {ids : List String} :
    (l.filter fun a => f a ∈ ids).length = ids.length ↔
      ids.Nodup ∧ ∀ id ∈ ids, id ∈ l.map f := by
  have hmap : (l.filter fun a => f a ∈ ids).map f = (l.map f).filter (· ∈ ids) := by
    rw [List.filter_map]
    rfl
  have hnodup : ((l.map f).filter (· ∈ ids)).Nodup := hl.filter _
  have hmem : ∀ {id}, id ∈ (l.map f).filter (· ∈ ids) ↔ id ∈ l.map f ∧ id ∈ ids := by
    intro id
    rw [List.mem_filter, decide_eq_true_eq]
  have hlength : (l.filter fun a => f a ∈ ids).length = ((l.map f).filter (· ∈ ids)).length := by
    rw [← hmap, List.length_map]
  rw [hlength]
  constructor
  · intro hsame
    have hsub : ((l.map f).filter (· ∈ ids)).Subperm ids :=
      List.subperm_of_subset hnodup fun id hid => (hmem.mp hid).2
    have hperm := hsub.perm_of_length_le hsame.ge
    exact ⟨hperm.nodup_iff.mp hnodup, fun id hid => (hmem.mp (hperm.mem_iff.mpr hid)).1⟩
  · rintro ⟨hids, hknown⟩
    refine List.Perm.length_eq ((List.perm_ext_iff_of_nodup hnodup hids).mpr fun id => ?_)
    exact hmem.trans ⟨fun h => h.2, fun h => ⟨hknown id h, h⟩⟩

/-! ### The stored snapshot -/

/-- What the stored snapshot has of the one that was analyzed. -/
structure StoredOf (snapshot stored : OperationalSnapshot) : Prop where
  productionOrders : stored.productionOrders.Perm
    (snapshot.productionOrders.map ProductionOrder.serialized)
  customerOrders : stored.customerOrders.Perm
    (snapshot.customerOrders.map CustomerOrder.serialized)
  lines : (stored.customerOrders.map CustomerOrder.customerOrderLineId).Nodup
  alphaExpedite : stored.alphaExpedite = snapshot.alphaExpedite.map SupplyReceiptOption.serialized

theorem sortedByStableId_eq_ok {α : Type} {fieldName : String} {stableId : α → String}
    {items sorted : List α} (h : sortedByStableId fieldName stableId items = .ok sorted) :
    sorted.Perm items ∧ (sorted.map stableId).Nodup := by
  unfold sortedByStableId at h
  split at h
  · next hids =>
    obtain rfl := Except.ok.inj h
    have hperm := List.perm_insertionSort (fun a b => stableId a ≤ stableId b) items
    exact ⟨hperm, (hperm.map stableId).nodup_iff.mpr hids⟩
  · cases h

theorem storedOf_canonical {snapshot stored : OperationalSnapshot}
    (h : canonicalOperationalSnapshot snapshot = .ok stored) : StoredOf snapshot stored := by
  obtain ⟨_, -, h⟩ := bind_eq_ok.mp h
  obtain ⟨_, hproduction, h⟩ := bind_eq_ok.mp h
  obtain ⟨_, hcustomer, h⟩ := bind_eq_ok.mp h
  obtain rfl := Except.ok.inj h
  obtain ⟨hcustomers, hlines⟩ := sortedByStableId_eq_ok hcustomer
  exact ⟨(sortedByStableId_eq_ok hproduction).1, hcustomers, hlines, rfl⟩

theorem topPriority_congr {orders orders' : List ProductionOrder}
    (h : orders'.Perm (orders.map ProductionOrder.serialized)) {order : ProductionOrder} :
    TopPriority orders' order.serialized ↔ TopPriority orders order := by
  simp only [TopPriority, h.mem_iff, List.forall_mem_map]
  rfl

namespace StoredOf

variable {snapshot stored : OperationalSnapshot} (h : StoredOf snapshot stored)
include h

theorem mem_lines {id : String} :
    id ∈ stored.customerOrders.map CustomerOrder.customerOrderLineId ↔
      id ∈ snapshot.customerOrders.map CustomerOrder.customerOrderLineId := by
  rw [(h.customerOrders.map _).mem_iff, List.map_map]
  rfl

theorem namedOrders_perm (option : ResponseOption) :
    (namedOrders stored option).Perm (namedOrders snapshot option) := by
  unfold namedOrders
  split
  · exact .refl _
  · refine ((h.productionOrders.filter _).filterMap _).trans ?_
    rw [List.filter_map, List.filterMap_map]
    have hfilter : snapshot.productionOrders.filter
        ((fun o => decide (TopPriority stored.productionOrders o)) ∘ ProductionOrder.serialized) =
        snapshot.productionOrders.filter fun o =>
          decide (TopPriority snapshot.productionOrders o) :=
      List.filter_congr fun o _ => decide_eq_decide.mpr (topPriority_congr h.productionOrders)
    rw [hfilter]
    rfl

theorem knownOrders_iff (option : ResponseOption) :
    KnownOrders stored (namedOrders stored option) ↔
      KnownOrders snapshot (namedOrders snapshot option) := by
  have hperm := h.namedOrders_perm option
  simp only [KnownOrders, hperm.nodup_iff, hperm.mem_iff, h.mem_lines]

end StoredOf

/-! ### Plans -/

variable {env : Env} {decision : Decision} {analysis : AnalysisVersion} {option : ResponseOption}
  {snapshot : OperationalSnapshot}

/-- The orders whose priority is the least number are those that no other precedes. -/
theorem protectedIds_eq (hselected : decision.selectedOption = some option) :
    protectedIds decision snapshot = namedOrders snapshot option := by
  have hnamed : ((decision.selectedOption.bind ResponseOption.predicted).map
      PredictedOutcome.protectedCustomerOrderIds).getD [] = protectedBy option := by
    rw [hselected]
    rfl
  unfold protectedIds namedOrders
  simp only [hnamed]
  split
  · rfl
  · refine congrArg _ ?_
    rw [List.filter_filter]
    refine List.filter_congr fun order horder => ?_
    rw [Bool.eq_iff_iff, Bool.and_eq_true, decide_eq_true_eq, decide_eq_true_eq]
    constructor
    · rintro ⟨⟨hpriority, hleast⟩, hcustomer⟩
      obtain ⟨priority, hsome⟩ := Option.isSome_iff_exists.mp hpriority
      rw [hsome] at hleast
      obtain ⟨-, hmin⟩ := List.min?_eq_some_iff.mp hleast.symm
      refine ⟨hcustomer, priority, hsome, fun other hother hbound q hq => hmin q ?_⟩
      exact List.mem_filterMap.mpr ⟨other, List.mem_filter.mpr ⟨hother, hbound⟩, hq⟩
    · rintro ⟨hcustomer, priority, hsome, hmin⟩
      rw [Option.mem_def] at hsome
      refine ⟨⟨by rw [hsome]; rfl, ?_⟩, hcustomer⟩
      rw [hsome]
      refine (List.min?_eq_some_iff.mpr ⟨?_, fun q hq => ?_⟩).symm
      · exact List.mem_filterMap.mpr ⟨order, List.mem_filter.mpr ⟨horder, hcustomer⟩, hsome⟩
      · obtain ⟨other, hother, hq⟩ := List.mem_filterMap.mp hq
        obtain ⟨hother, hbound⟩ := List.mem_filter.mp hother
        exact hmin other hother hbound q hq

/-- Only an expedite without its receipt and a resequencing of unknown orders have no texts. -/
theorem exists_actionDisplay (hselected : decision.selectedOption = some option)
    (hlines : (snapshot.customerOrders.map CustomerOrder.customerOrderLineId).Nodup)
    {kind : ExecutionActionKind}
    (halpha : kind = .coordinateAlphaExpeditedPartial → snapshot.alphaExpedite.isSome = true) :
    (∃ display, actionDisplay decision snapshot kind = .ok display) ↔
      (kind = .resequencePriorityProduction →
        KnownOrders snapshot (namedOrders snapshot option)) := by
  cases kind with
  | prepareAlphaRecoveryDraft => exact ⟨fun _ h => absurd h (by decide), fun _ => ⟨_, rfl⟩⟩
  | transferDallasToChicago => exact ⟨fun _ h => absurd h (by decide), fun _ => ⟨_, rfl⟩⟩
  | updateDisruptionStatus => exact ⟨fun _ h => absurd h (by decide), fun _ => ⟨_, rfl⟩⟩
  | coordinateAlphaExpeditedPartial =>
    obtain ⟨alpha, hsome⟩ := Option.isSome_iff_exists.mp (halpha rfl)
    refine ⟨fun _ h => absurd h (by decide), fun _ => ?_⟩
    rw [actionDisplay, hsome]
    exact ⟨_, rfl⟩
  | resequencePriorityProduction =>
    rw [actionDisplay, resequenceDisplay, protectedIds_eq hselected]
    have hknown : _ ↔ KnownOrders snapshot (namedOrders snapshot option) :=
      length_filter_eq_iff hlines
    constructor
    · rintro ⟨display, hdisplay⟩ -
      split at hdisplay
      · next hlength => exact hknown.mp hlength
      · cases hdisplay
    · intro h
      rw [if_pos (hknown.mpr (h rfl))]
      exact ⟨_, rfl⟩

theorem exists_mapM_ok {α β ε : Type} {f : α → Except ε β} {l : List α}
    (h : ∀ a ∈ l, ∃ b, f a = .ok b) : ∃ l', l.mapM f = .ok l' := by
  induction l with
  | nil => exact ⟨[], rfl⟩
  | cons a l ih =>
    obtain ⟨b, hb⟩ := h a List.mem_cons_self
    obtain ⟨l', hl'⟩ := ih fun a' ha' => h a' (List.mem_cons_of_mem a ha')
    exact ⟨b :: l', by rw [List.mapM_cons, hb, hl']; rfl⟩

theorem actionKindsFor_ne_nil {kind : ResponseOptionKind} {kinds : List ExecutionActionKind}
    (h : actionKindsFor kind = .ok kinds) : kinds ≠ [] := by
  rintro rfl
  cases kind <;> simp [actionKindsFor, ExecutionActionKind.all] at h

/-- An approval is planned when its option has actions, and each action its texts. -/
theorem ApprovedOn.exists_plan (h : ApprovedOn decision analysis option) :
    (∃ actions, planActions env decision analysis = .ok actions ∧ actions ≠ []) ↔
      ∃ kinds, actionKindsFor option.optionKind = .ok kinds ∧ ∀ kind ∈ kinds, ∃ display,
        actionDisplay decision analysis.material.operationalSnapshotJson kind = .ok display := by
  have hplanned : decision.plannedOption analysis = some option := by
    rw [Decision.plannedOption, h.selected, Option.filter_some,
      if_pos (decide_eq_true ⟨h.analysisId, h.hash, h.selectedId, h.executable⟩)]
  have hplan : planActions env decision analysis = (do
      let kinds ← actionKindsFor option.optionKind
      kinds.mapM (buildAction env decision analysis.material.operationalSnapshotJson)) := by
    rw [planActions, hplanned, ensure, if_pos h.kind]
    rfl
  rw [hplan]
  constructor
  · rintro ⟨actions, hactions, -⟩
    obtain ⟨kinds, hkinds, hactions⟩ := bind_eq_ok.mp hactions
    refine ⟨kinds, hkinds, fun kind hkind => ?_⟩
    obtain ⟨action, haction⟩ := exists_ok_of_mapM hactions hkind
    obtain ⟨display, hdisplay, -⟩ := bind_eq_ok.mp haction
    exact ⟨display, hdisplay⟩
  · rintro ⟨kinds, hkinds, hdisplays⟩
    have hbuilds : ∀ kind ∈ kinds, ∃ action, buildAction env decision
        analysis.material.operationalSnapshotJson kind = .ok action := by
      intro kind hkind
      obtain ⟨display, hdisplay⟩ := hdisplays kind hkind
      exact ⟨_, by rw [buildAction, hdisplay]; rfl⟩
    obtain ⟨actions, hactions⟩ := exists_mapM_ok hbuilds
    refine ⟨actions, bind_eq_ok.mpr ⟨kinds, hkinds, hactions⟩, ?_⟩
    rintro rfl
    exact actionKindsFor_ne_nil hkinds (List.forall₂_nil_right_iff.mp (mapM_eq_ok hactions))

/-! ### The options of an analysis -/

@[simp] theorem serialized_optionKind (option : ResponseOption) :
    option.serialized.optionKind = option.optionKind := rfl

/-- An option that can be executed mitigates, and with an expedite it has the receipt. -/
theorem executable_kind {bases : List ResponseOption}
    (h : evaluateResponseOptions snapshot = .ok bases) {base : ResponseOption} (hbase : base ∈ bases)
    (hexecutable : base.executable = true) :
    base.optionKind ≠ .noMitigation ∧ (base.optionKind = .expedite ∨ base.optionKind = .combined →
      snapshot.alphaExpedite.isSome = true) := by
  obtain ⟨outcomes, -, rfl⟩ := evaluateResponseOptions_eq_ok.mp h
  simp only [optionsOf, List.mem_cons, List.not_mem_nil, or_false] at hbase
  have hother : ∀ kind : ResponseOptionKind, kind ≠ .expedite → kind ≠ .combined →
      kind = .expedite ∨ kind = .combined → snapshot.alphaExpedite.isSome = true :=
    fun kind hexpedite hcombined h => absurd h (not_or.mpr ⟨hexpedite, hcombined⟩)
  rcases hbase with rfl | rfl | rfl | rfl | rfl | rfl
  · cases hexecutable
  · exact ⟨show ResponseOptionKind.expedite ≠ .noMitigation by decide, fun _ => hexecutable⟩
  · exact ⟨show ResponseOptionKind.transfer ≠ .noMitigation by decide,
      hother .transfer (by decide) (by decide)⟩
  · exact ⟨show ResponseOptionKind.resequence ≠ .noMitigation by decide,
      hother .resequence (by decide) (by decide)⟩
  · exact ⟨show ResponseOptionKind.alternateSource ≠ .noMitigation by decide,
      hother .alternateSource (by decide) (by decide)⟩
  · simp only [combinedOption, Bool.and_eq_true] at hexecutable
    exact ⟨show ResponseOptionKind.combined ≠ .noMitigation by decide,
      fun _ => hexecutable.1.1⟩

/-- Of the mitigations, only the alternate source has no actions. -/
theorem actionKindsFor_cases {kind : ResponseOptionKind} (h : kind ≠ .noMitigation) :
    (kind = .alternateSource ∧ ∀ kinds, actionKindsFor kind ≠ .ok kinds) ∨
      (kind ≠ .alternateSource ∧ ∃ kinds, actionKindsFor kind = .ok kinds ∧
        (.resequencePriorityProduction ∈ kinds ↔ kind = .resequence ∨ kind = .combined) ∧
        (.coordinateAlphaExpeditedPartial ∈ kinds → kind = .expedite ∨ kind = .combined)) := by
  cases kind with
  | noMitigation => exact absurd rfl h
  | alternateSource => exact .inl ⟨rfl, nofun⟩
  | expedite => exact .inr ⟨nofun, _, rfl, by decide, by decide⟩
  | transfer => exact .inr ⟨nofun, _, rfl, by decide, by decide⟩
  | resequence => exact .inr ⟨nofun, _, rfl, by decide, by decide⟩
  | combined => exact .inr ⟨nofun, _, rfl, by decide, by decide⟩

/-- An approval that a service accepts on an analysis is planned, with at least one action,
exactly when its option is plannable. -/
theorem approved_planned_iff (env : Env) (unicode : Text.Unicode) (isIpv6 : String → Bool)
    (command : AnalyzeCaseCommand) (analysis : AnalysisVersion) (s s' : Store)
    (decision : Decision) (hanalysis : analyzeCase env unicode isIpv6 command = .ok analysis)
    (hstored : s.analyses.get? (.analysis analysis.analysisId) = some analysis.serialized)
    (haccepts : Accepts env s decision s') (hkind : decision.kind = .approved)
    (hon : decision.analysisId = analysis.analysisId) :
    (∃ actions, planActions env decision analysis.serialized = .ok actions ∧ actions ≠ []) ↔
      ∃ option ∈ decision.selectedOption, Plannable command.operationalSnapshot option := by
  obtain ⟨bases, hfrom⟩ := analyzeCase_spec hanalysis
  obtain ⟨stored, option, hget, happroved⟩ := haccepts.approvedOn hkind
  rw [hon, hstored] at hget
  obtain rfl := Option.some.inj hget
  obtain ⟨final, hfinal, rfl⟩ := List.mem_map.mp happroved.mem
  obtain ⟨base, hbase, rfl⟩ := hfrom.mem_responseOptions.mp hfinal
  obtain ⟨hmitigates, halpha⟩ := executable_kind hfrom.evaluated hbase
    ((hfrom.executable_iff hbase).mp happroved.executable).executable
  have hsnapshot := storedOf_canonical hfrom.snapshot
  have hplannable : ∀ P : ResponseOption → Prop, (∃ option ∈ decision.selectedOption, P option) ↔
      P _ := fun P => ⟨fun ⟨option, hmem, hP⟩ => by
        rw [happroved.selected] at hmem
        exact Option.some.inj hmem ▸ hP, fun hP => ⟨_, happroved.selected, hP⟩⟩
  rw [happroved.exists_plan, hplannable, Plannable, ← hsnapshot.knownOrders_iff]
  obtain ⟨halternate, hnone⟩ | ⟨hother, kinds, hkinds, hresequence, hexpedite⟩ :=
    actionKindsFor_cases hmitigates
  · refine ⟨fun ⟨kinds, hkinds, _⟩ => absurd hkinds ?_, fun h => absurd ?_ h.1⟩
    · simpa using hnone kinds
    · simpa using halternate
  · have hdisplay : ∀ kind ∈ kinds, (∃ display, actionDisplay decision
        analysis.material.operationalSnapshotJson kind = .ok display) ↔ _ := fun kind hmem =>
      exists_actionDisplay happroved.selected hsnapshot.lines fun hkind => by
        rw [hsnapshot.alphaExpedite, Option.isSome_map]
        exact halpha (hexpedite (hkind ▸ hmem))
    constructor
    · rintro ⟨kinds', hkinds', hall⟩
      refine ⟨by simpa using hother, fun h => ?_⟩
      obtain rfl : kinds = kinds' := Except.ok.inj (hkinds.symm.trans (by simpa using hkinds'))
      have hmem := hresequence.mpr (by simpa using h)
      exact (hdisplay _ hmem).mp (hall _ hmem) rfl
    · rintro ⟨-, hknown⟩
      refine ⟨kinds, by simpa using hkinds, fun kind hmem => (hdisplay kind hmem).mpr ?_⟩
      rintro rfl
      exact hknown (by simpa using hresequence.mp hmem)

/-! ### An approved alternate source -/

/-- The demonstration case in the workflow of standing authorizations. -/
def qualifiedCase : CaseInstance := { rl001Case with workflowVersion := some .legacy }

/-- Its snapshot after Supplier Beta has been qualified. -/
def qualifiedSnapshot : OperationalSnapshot :=
  let snapshot := OperationalSnapshot.rl001 "RL-CASE-1" .fallback
  { snapshot with betaQualification := { snapshot.betaQualification with status := .approved } }

/-- Jordan's authorization of the alternate source. -/
def jordanAuthorization : StandingAuthorization where
  authorizationId := "RL-AUTH-JORDAN-QUALITY-1"
  personaId := "RL-PERSONA-JORDAN"
  role := "quality_approver"
  conditions :=
    { allowedOptionKinds := [.alternateSource]
      maximumResponseCost := 0
      allowedCorpora := [.demoCorpus]
      allowedTemplateIds := ["RL-001"]
      allowedCasePurposes := [.rehearsal]
      validFrom := scenarioEffectiveTime
      validThrough := scenarioEffectiveTime
      forbiddenExternalSideEffects := [] }

/-- Its analysis, with a fact about the qualification. -/
def qualifiedCommand : AnalyzeCaseCommand :=
  { rl001Command with
    case := qualifiedCase
    operationalSnapshot := qualifiedSnapshot
    evidenceItems :=
      [{ rl001Evidence qualifiedSnapshot.betaQualification.evidenceRef with
          authorityScope := [.qualificationState] }]
    standingAuthorizations := [jordanAuthorization]
    requiredAuthorityScope := [.qualificationState] }

/-- The store that holds the analysis. -/
def qualifiedStore (analysis : AnalysisVersion) : Store :=
  history (Transaction.program sampleEnv)
    [.createCase qualifiedCase qualifiedSnapshot, .saveAnalysis analysis none 0] Store.empty

/-- Alex approves an option. -/
def approveOption (optionId : String) : RecordDecisionCommand where
  caseId := "RL-CASE-1"
  analysisId := "RL-ANALYSIS-1"
  selectedOptionId := some optionId
  kind := .approved
  idempotencyKey := "key"
  rejectionReason := none
  valid := ⟨by decide, by decide, by decide, fun _ => ⟨rfl, rfl⟩, nofun⟩

/-- The approval is accepted, with a Decision that passes the check. -/
def approvalAccepted (optionId : String) (check : AnalysisVersion → Decision → Bool) : Bool :=
  (analyzeCase sampleEnv asciiTexts (fun _ => false) qualifiedCommand).toOption.any fun analysis =>
    decide ((qualifiedStore analysis).analyses.get? (.analysis analysis.analysisId) =
      some analysis.serialized) &&
      (recordTransaction sampleEnv (approveOption optionId) sampleAlex "1" "1" 0).checkCommitted
        (qualifiedStore analysis) fun decision _ =>
          decide (decision.kind = .approved ∧ decision.analysisId = analysis.analysisId) &&
            check analysis decision

theorem exists_of_approvalAccepted {optionId : String} {check : AnalysisVersion → Decision → Bool}
    (h : approvalAccepted optionId check = true) :
    ∃ analysis s' decision,
      analyzeCase sampleEnv asciiTexts (fun _ => false) qualifiedCommand = .ok analysis ∧
      (qualifiedStore analysis).analyses.get? (.analysis analysis.analysisId) =
        some analysis.serialized ∧
      Accepts sampleEnv (qualifiedStore analysis) decision s' ∧ decision.kind = .approved ∧
      decision.analysisId = analysis.analysisId ∧ check analysis decision = true := by
  obtain ⟨analysis, hanalysis, h⟩ := (Option.any_eq_true _ _).mp h
  rw [Bool.and_eq_true, decide_eq_true_eq] at h
  obtain ⟨hstored, h⟩ := h
  obtain ⟨decision, s', hcommits, h⟩ := exists_of_checkCommitted h
  rw [Bool.and_eq_true, decide_eq_true_eq] at h
  obtain ⟨⟨hkind, hon⟩, hcheck⟩ := h
  refine ⟨analysis, s', decision, ?_, hstored, .record hcommits, hkind, hon, hcheck⟩
  cases hresult : analyzeCase sampleEnv asciiTexts (fun _ => false) qualifiedCommand with
  | error e => rw [hresult] at hanalysis; cases hanalysis
  | ok analysis' => rw [hresult] at hanalysis; exact congrArg _ (Option.some.inj hanalysis)

/-- The resequencing of the qualified case is approved and planned. -/
theorem approved_planned_sample :
    ∃ analysis s' decision,
      analyzeCase sampleEnv asciiTexts (fun _ => false) qualifiedCommand = .ok analysis ∧
      Accepts sampleEnv (qualifiedStore analysis) decision s' ∧
      ∃ actions, planActions sampleEnv decision analysis.serialized = .ok actions ∧
        actions ≠ [] := by
  have haccepted : approvalAccepted "RL-OPTION-RESEQUENCE" (fun _ decision =>
      decision.selectedOption.any fun option => decide (Plannable qualifiedSnapshot option)) =
      true := by decide +kernel
  obtain ⟨analysis, s', decision, hanalysis, hstored, haccepts, hkind, hon, hcheck⟩ :=
    exists_of_approvalAccepted haccepted
  refine ⟨analysis, s', decision, hanalysis, haccepts,
    (approved_planned_iff sampleEnv asciiTexts (fun _ => false) qualifiedCommand analysis
      (qualifiedStore analysis) s' decision hanalysis hstored haccepts hkind hon).mpr ?_⟩
  obtain ⟨option, hoption, hplannable⟩ := (Option.any_eq_true _ _).mp hcheck
  exact ⟨option, hoption, of_decide_eq_true hplannable⟩

/-- The alternate source of the qualified case is approved, and cannot be planned. -/
theorem approved_unplanned :
    ∃ analysis s' decision,
      analyzeCase sampleEnv asciiTexts (fun _ => false) qualifiedCommand = .ok analysis ∧
      (qualifiedStore analysis).analyses.get? (.analysis analysis.analysisId) =
        some analysis.serialized ∧
      Accepts sampleEnv (qualifiedStore analysis) decision s' ∧ decision.kind = .approved ∧
      decision.analysisId = analysis.analysisId ∧
      ∀ actions, planActions sampleEnv decision analysis.serialized ≠ .ok actions := by
  have haccepted : approvalAccepted "RL-OPTION-BETA" (fun analysis decision =>
      !(planActions sampleEnv decision analysis.serialized).isOk) = true := by decide +kernel
  obtain ⟨analysis, s', decision, hanalysis, hstored, haccepts, hkind, hon, hcheck⟩ :=
    exists_of_approvalAccepted haccepted
  refine ⟨analysis, s', decision, hanalysis, hstored, haccepts, hkind, hon, fun actions h => ?_⟩
  rw [h] at hcheck
  cases hcheck

end SupplyResponse
