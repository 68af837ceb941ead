/-
The approval panel of a case
(`apps/web/src/finance/IndependentApprovalPanel.tsx`).

* `hasAnalysis`, `hasSelection`, `matchesReceipt` — what a displayed proposal belongs to;
* `Panel` — the properties, the state and the references of the component;
* `Panel.offersSubmit` — whether the button for a submission is there and enabled;
* `Panel.submit`, `Panel.accepted`, `Panel.failed` — a submission and its two ends;
* `Panel.refresh`, `Panel.showProposal`, `Panel.select` — polls and changes of the option.
-/
import SupplyResponse.Domain.Commands
import SupplyResponse.Domain.Decisions

namespace SupplyResponse

/-! ### What is displayed -/

structure DisplayedAnalysis where
  analysisId : String
  materialHash : String
  deriving DecidableEq

def hasAnalysis (state : ProposalState) (analysis : DisplayedAnalysis) : Bool :=
  state.token.analysisId = some analysis.analysisId ∧
    state.token.analysisMaterialHash = some analysis.materialHash

def hasSelection (state : ProposalState) (caseId : String) (analysis : DisplayedAnalysis) :
    Option ResponseOption → Bool
  | none => false
  | some option => state.selection.any fun selection =>
    hasAnalysis state analysis && decide (state.token.selectionId = some selection.selectionId ∧
      selection.proposal.caseId = caseId ∧ selection.proposal.analysisId = analysis.analysisId ∧
      selection.proposal.analysisMaterialHash = analysis.materialHash ∧
      selection.proposal.optionId = option.optionId ∧
      some selection.proposal.responseCost = option.predicted.map PredictedOutcome.responseCost)

def matchesReceipt (decision : Option Decision) (state : Option ProposalState) (caseId : String)
    (analysis : DisplayedAnalysis) (option : Option ResponseOption) : Bool :=
  decision.any fun decision => state.any fun state =>
    hasSelection state caseId analysis option && decide (decision.kind = .approved ∧
      decision.caseId = caseId ∧ decision.analysisId = analysis.analysisId ∧
      decision.analysisMaterialHash = analysis.materialHash ∧
      decision.selectedOptionId = option.map ResponseOption.optionId ∧
      decision.proposalApproval.map (fun evidence => evidence.selection.selectionId) =
        state.selection.map ProposalSelection.selectionId)

/-- `definitive`, of the status of an `ApiRequestError`; other errors have none. -/
def definitive (status : Option ℕ) : Bool := status.any fun status => status ∈ [403, 404, 409, 422]

/-! ### The component -/

/-- `Command<SubmitProposalInput>`. -/
structure SubmitIntent where
  optionId : String
  expected : ProposalToken
  key : String
  deriving DecidableEq

structure Panel where
  caseId : String
  displayedAnalysis : DisplayedAnalysis
  selectedOption : Option ResponseOption
  finalDecision : Option Decision := none
  independentFinanceEnabled : Bool := true
  proposalState : Option ProposalState := none
  localReceipt : Option Decision := none
  busy : Bool := false
  generation : ℕ := 0
  submitIntent : Option SubmitIntent := none

namespace Panel

variable (panel : Panel)

def analysisCurrent : Bool :=
  panel.proposalState.all fun state => hasAnalysis state panel.displayedAnalysis

def selectionCurrent : Bool :=
  panel.proposalState.any fun state =>
    hasSelection state panel.caseId panel.displayedAnalysis panel.selectedOption

def receipt : Option Decision :=
  if matchesReceipt panel.localReceipt panel.proposalState panel.caseId panel.displayedAnalysis
      panel.selectedOption then panel.localReceipt
  else if matchesReceipt panel.finalDecision panel.proposalState panel.caseId
      panel.displayedAnalysis panel.selectedOption then panel.finalDecision
  else none

/-- The button for a submission is shown, and not disabled. -/
def offersSubmit : Bool :=
  panel.selectedOption.any fun option =>
    panel.receipt.isNone && panel.independentFinanceEnabled && panel.analysisCurrent &&
      (!panel.selectionCurrent || panel.proposalState.any fun state =>
        state.review.any fun review => review.status = .rejected) &&
      !panel.busy && panel.proposalState.isSome && option.executable

/-- The first part of `submit`, up to the request: the command that is sent.  `key` is a
new `commandKey`. -/
def submit (key : String) : Option (SubmitIntent × Panel) :=
  match panel.selectedOption, panel.proposalState with
  | some option, some state =>
    if panel.busy = false ∧ option.executable = true ∧ panel.analysisCurrent = true ∧
        panel.independentFinanceEnabled = true then
      let intent := panel.submitIntent.getD ⟨option.optionId, state.token, key⟩
      some (intent,
        { panel with submitIntent := some intent, generation := panel.generation + 1, busy := true })
    else none
  | _, _ => none

/-- The request was accepted. -/
def accepted : Panel := { panel with submitIntent := none }

/-- The request failed, with the status of an `ApiRequestError` or without one. -/
def failed (status : Option ℕ) : Panel :=
  if definitive status then
    { panel with submitIntent := none, proposalState := none, busy := false }
  else { panel with busy := false }

/-- `refresh`, up to the request, whose number is the new generation. -/
def refresh : Panel := { panel with generation := panel.generation + 1 }

/-- The end of the refresh with this number; `none` is an error. -/
def showProposal (request : ℕ) (state : Option ProposalState) : Panel :=
  if request = panel.generation then { panel with proposalState := state } else panel

/-- Another option is selected. -/
def select (option : Option ResponseOption) : Panel :=
  if option.map ResponseOption.optionId = panel.selectedOption.map ResponseOption.optionId then
    { panel with selectedOption := option }
  else { panel with selectedOption := option, submitIntent := none, localReceipt := none }

end Panel

end SupplyResponse
