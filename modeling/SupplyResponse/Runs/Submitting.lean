/-
Submissions from the approval panel, over any run of one panel.

* `Desk` — the database, the panel, the refreshes and the submission under way;
* `Desk.step` — one event: a click, a poll, the server, an answer, a loss, a commit of
  anyone else;
* `Click.attempt`, `Click.touched` — what a click retries, and what others did meanwhile;
* `Served.Created`, `Served.ReplayedLive` — what an accepted submission may stand for;
* `submissions_answered` — retries send the same command, and accepted submissions answer
  their clicks if nobody touched what they retry.
-/
import SupplyResponse.Api.Finance
import SupplyResponse.Runs.OneApproval
import SupplyResponse.Web.ApprovalPanel

namespace SupplyResponse

open Transact Transact.Prog

/-! ### Clicks -/

/-- The selection is the current one of the case, and its review is not yet resolved. -/
def Live (s : Store) (caseId : String) (selection : ProposalSelection) : Prop :=
  pointer s caseId = some selection.selectionId ∧
    selection.financeReviewId.all (fun id =>
      (latestRow s id).any fun row => row.review.status = .pending) = true

instance (s : Store) (caseId : String) (selection : ProposalSelection) :
    Decidable (Live s caseId selection) :=
  inferInstanceAs (Decidable (_ ∧ _))

/-- The current selection of the case was rejected. -/
def RejectedOn (s : Store) (caseId : String) : Prop :=
  ∃ receipt ∈ s.selections, pointer s caseId = some receipt.selection.selectionId ∧
    ∃ id ∈ receipt.selection.financeReviewId, ∃ row, latestRow s id = some row ∧
      row.review.status = .rejected

/-- Another selection is current, or the review of this one has another revision. -/
def Touches (s s' : Store) (caseId : String) (selection : ProposalSelection) : Prop :=
  pointer s' caseId ≠ pointer s caseId ∨
    selection.financeReviewId.any (fun id => latestRow s' id ≠ latestRow s id) = true

instance (s s' : Store) (caseId : String) (selection : ProposalSelection) :
    Decidable (Touches s s' caseId selection) :=
  inferInstanceAs (Decidable (_ ∨ _))

/-- A click, with the database at that time.  A click after an uncertain answer retries:
it is of the `attempt` of the click before.  `touched` says that someone else has touched
the selection which an earlier submission of the attempt had created. -/
structure Click where
  caseId : String
  intent : SubmitIntent
  attempt : ℕ
  touched : Bool
  store : Store

/-- What the command has created is absent, or current and unresolved. -/
def Click.Clear (click : Click) : Prop :=
  ∀ receipt, storedSubmission click.store click.intent.key = some receipt →
    Live click.store click.caseId receipt.selection

/-- A submission that the server has processed. -/
structure Served where
  click : Click
  before : Store
  answer : Except ℕ SubmissionResult
  after : Store

namespace Served

variable (served : Served)

/-- The submission has created a selection. -/
def Creates : Prop :=
  storedSubmission served.before served.click.intent.key = none ∧
    (storedSubmission served.after served.click.intent.key).isSome

/-- The answer is a selection that the submission has created. -/
def Created (result : SubmissionResult) : Prop :=
  storedSubmission served.before served.click.intent.key = none ∧ ∃ receipt,
    storedSubmission served.after served.click.intent.key = some receipt ∧
      receipt.selection = result.selection

/-- The answer is a stored selection that was current and unresolved at the click. -/
def ReplayedLive (result : SubmissionResult) : Prop :=
  ∃ receipt, storedSubmission served.before served.click.intent.key = some receipt ∧
    receipt.selection = result.selection ∧
      Live served.click.store served.click.caseId receipt.selection

end Served

/-! ### Runs -/

/-- A refresh under way, with the answer of the server if it has come. -/
structure Refresh where
  request : ℕ
  answer : Option (Except ℕ ProposalState) := none

/-- The submission under way. -/
inductive Flight
  | sent (click : Click)
  | processed (served : Served)
  | refreshing (request : ℕ)

structure Desk where
  store : Store
  panel : Panel
  /-- The clicks, the last one first. -/
  clicks : List Click := []
  /-- The last click, if it has no definite answer and the option is still the same. -/
  unsettled : Option Click := none
  /-- Someone else has touched what its attempt has created. -/
  touched : Bool := false
  refreshes : List Refresh := []
  flight : Option Flight := none
  served : List Served := []
  accepted : List Served := []

inductive DeskEvent
  | select (option : Option ResponseOption)
  | receive (decision : Option Decision)
  | poll
  | read (request : ℕ) (actor : IdentitySnapshot)
  | arrive (request : ℕ)
  | loseRefresh (request : ℕ)
  | click (key : String)
  | process (enabled : Bool) (actor : IdentitySnapshot) (selectionUuid reviewUuid : String)
    (clock : ClockReading)
  | answer
  | lose (status : Option ℕ)
  | other (t : Transaction)

/-- The key of a submission. -/
def Transaction.submissionKey? : Transaction → Option String
  | .submit command .. => some command.idempotencyKey
  | _ => none

namespace Desk

variable (env : Env)

/-- The keys of the panel. -/
def keys (desk : Desk) : List String := desk.clicks.map fun click => click.intent.key

/-- A refresh starts. -/
def refresh (desk : Desk) : Desk :=
  { desk with
    panel := desk.panel.refresh
    refreshes := desk.refreshes ++ [{ request := desk.panel.generation + 1 }] }

/-- A refresh ends; the submission that waited for it is over. -/
def endRefresh (desk : Desk) (request : ℕ) (state : Option ProposalState) : Desk :=
  let shown := { desk with
    panel := desk.panel.showProposal request state
    refreshes := desk.refreshes.filter fun refresh => refresh.request ≠ request }
  match desk.flight with
  | some (.refreshing waiting) =>
    if waiting = request then
      { shown with panel := { shown.panel with busy := false }, flight := none }
    else shown
  | _ => shown

/-- A click; a new key is one that nobody has used. -/
def click (desk : Desk) (key : String) : Option Desk :=
  if desk.panel.offersSubmit = true ∧ desk.flight.isNone ∧ key ∉ desk.keys ∧
      storedSubmission desk.store key = none then
    (desk.panel.submit key).map fun (intent, panel) =>
      let click : Click :=
        { caseId := panel.caseId
          intent := intent
          attempt := (desk.unsettled.map Click.attempt).getD desk.clicks.length
          touched := desk.unsettled.isSome && desk.touched
          store := desk.store }
      { desk with
        panel := panel
        clicks := click :: desk.clicks
        unsettled := some click
        touched := click.touched
        flight := some (.sent click) }
  else none

/-- The server processes the submission under way. -/
def process (desk : Desk) (enabled : Bool) (actor : IdentitySnapshot)
    (selectionUuid reviewUuid : String) (clock : ClockReading) : Option Desk :=
  match desk.flight with
  | some (.sent click) =>
    let response := submitRoute env enabled click.caseId click.intent.optionId
      click.intent.expected click.intent.key actor selectionUuid reviewUuid clock desk.store
    let served : Served := ⟨click, desk.store, response.1, response.2⟩
    some { desk with
      store := response.2
      flight := some (.processed served)
      served := desk.served ++ [served] }
  | _ => none

/-- The submission ends without success; a status that is not definitive leaves open what
became of it. -/
def fail (desk : Desk) (status : Option ℕ) : Desk :=
  { desk with
    panel := desk.panel.failed status
    unsettled := if definitive status then none else desk.unsettled
    flight := none }

/-- The answer of the server arrives. -/
def answer (desk : Desk) : Option Desk :=
  match desk.flight with
  | some (.processed served) =>
    match served.answer with
    | .ok _ =>
      let desk := { desk with
        panel := desk.panel.accepted
        unsettled := none
        accepted := desk.accepted ++ [served] }.refresh
      some { desk with flight := some (.refreshing desk.panel.generation) }
    | .error status => some (desk.fail (some status))
  | _ => none

/-- The submission or its answer is lost. -/
def lose (desk : Desk) (status : Option ℕ) : Option Desk :=
  match desk.flight with
  | some (.sent _) | some (.processed _) => some (desk.fail status)
  | _ => none

/-- Another option is selected. -/
def select (desk : Desk) (option : Option ResponseOption) : Desk :=
  { desk with
    panel := desk.panel.select option
    unsettled :=
      if option.map ResponseOption.optionId =
          desk.panel.selectedOption.map ResponseOption.optionId then desk.unsettled
      else none }

/-- Someone else commits. -/
def other (desk : Desk) (t : Transaction) : Desk :=
  let store := ((t.program env).transact desk.store).2
  { desk with
    store := store
    touched := desk.touched || desk.unsettled.any fun click =>
      (storedSubmission desk.store click.intent.key).any fun receipt =>
        Touches desk.store store click.caseId receipt.selection }

/-- One event; `none` where it cannot happen. -/
def step (desk : Desk) : DeskEvent → Option Desk
  | .select option => some (desk.select option)
  | .receive decision => some { desk with panel := { desk.panel with finalDecision := decision } }
  | .poll => some desk.refresh
  | .read request actor =>
    some { desk with refreshes := desk.refreshes.map fun refresh =>
      if refresh.request = request ∧ refresh.answer.isNone then
        { refresh with answer := some (proposalRoute env desk.panel.caseId actor desk.store) }
      else refresh }
  | .arrive request =>
    (desk.refreshes.find? fun refresh => refresh.request = request).bind fun refresh =>
      refresh.answer.map fun answer => desk.endRefresh request answer.toOption
  | .loseRefresh request =>
    if desk.refreshes.any fun refresh => refresh.request = request then
      some (desk.endRefresh request none)
    else none
  | .click key => desk.click key
  | .process enabled actor selectionUuid reviewUuid clock =>
    desk.process env enabled actor selectionUuid reviewUuid clock
  | .answer => desk.answer
  | .lose status => desk.lose status
  | .other t =>
    if t.submissionKey?.all fun key => decide (key ∉ desk.keys) then some (desk.other env t)
    else none

/-- The panel is opened. -/
def start (store : Store) (caseId : String) (analysis : DisplayedAnalysis)
    (option : Option ResponseOption) (enabled : Bool) : Desk where
  store := store
  panel :=
    { caseId := caseId
      displayedAnalysis := analysis
      selectedOption := option
      independentFinanceEnabled := enabled }

/-- The events of a run, one after the other. -/
def run : List DeskEvent → Desk → Option Desk
  | [], desk => some desk
  | event :: events, desk => (desk.step env event).bind (run events)

end Desk

/-! ### Keys of submissions -/

theorem Submits.selections_eq {env : Env} {s s' : Store} {command : SubmitProposalCommand}
    {receipt : SelectionReceipt} (h : Submits env s command receipt s') :
    s.selections.Free receipt ∧ s'.selections = s.selections.add receipt := by
  obtain ⟨s₁, hopens, hpub⟩ := h.published
  obtain ⟨st, -, hsup⟩ := hpub.effect
  refine ⟨hopens.selections_eq ▸ hpub.free, ?_⟩
  rw [← hopens.selections_eq]
  rcases hsup with ⟨-, rfl⟩ | ⟨review, -, ⟨rfl, -⟩ | ⟨row, -, -, -, rfl⟩⟩ <;> rfl

/-- A committed submission stores its receipt under its key, which was free. -/
theorem Submits.row {env : Env} {s s' : Store} {command : SubmitProposalCommand}
    {actor : IdentitySnapshot} {selectionUuid reviewUuid : String} {clock : ClockReading}
    {result : SubmissionResult} {receipt : SelectionReceipt}
    (hsubmits : Submits env s command receipt s')
    (h : (submitTransaction env command actor selectionUuid reviewUuid clock).Commits s result s') :
    s.selections.get? (.selectionKey (submitKey command)) = none ∧
      s'.selections.get? (.selectionKey (submitKey command)) = some receipt := by
  obtain ⟨hfree, hselections⟩ := hsubmits.selections_eq
  obtain ⟨-, stored, hstored⟩ := submit_stored h
  have hnew : s.selections.get? (.selectionKey (submitKey command)) = none := by
    cases hrow : s.selections.get? (.selectionKey (submitKey command)) with
    | none => rfl
    | some receipt' =>
      have hcommit := h
      unfold Commits submitTransaction at hcommit
      obtain ⟨-, hcommit⟩ := returns_require_bind.mp hcommit
      obtain ⟨_, hexit, -⟩ := returns_replay hrow hcommit
      cases hexit
  refine ⟨hnew, ?_⟩
  have hrow := hstored.row
  rw [hselections, Table.get?_add hfree] at hrow ⊢
  split
  · rfl
  · rename_i hnot
    rw [if_neg hnot, hnew] at hrow
    cases hrow

/-- A committed submission leaves the receipts of the other keys alone. -/
theorem storedSubmission_submit {env : Env} {s s' : Store} {command : SubmitProposalCommand}
    {actor : IdentitySnapshot} {selectionUuid reviewUuid : String} {clock : ClockReading}
    {result : SubmissionResult}
    (h : (submitTransaction env command actor selectionUuid reviewUuid clock).Commits s result s')
    {key : String} (hkey : key ≠ command.idempotencyKey) :
    storedSubmission s' key = storedSubmission s key := by
  obtain ⟨receipt, hsubmits⟩ := returns_submitTransaction env h
  obtain ⟨hfree, hselections⟩ := hsubmits.selections_eq
  have howns := (Table.get?_eq_some_iff.mp (hsubmits.row h).2).2
  have hkeys : ∀ k, Key.selectionKey k ∈ Keyed.keys receipt ↔ k = receipt.idempotencyKey := by
    intro k
    simp [Keyed.keys]
  have hother : Key.selectionKey ("finance-submit:" ++ key) ∉ Keyed.keys receipt := by
    rw [hkeys, ← (hkeys _).mp howns]
    exact fun he => hkey (String.append_right_inj _ |>.mp he)
  unfold storedSubmission
  rw [hselections, Table.get?_add hfree, if_neg hother]

/-- So does every other transaction. -/
theorem storedSubmission_other {env : Env} {t : Transaction} {key : String}
    (hkey : t.submissionKey? ≠ some key) (s : Store) :
    storedSubmission ((t.program env).transact s).2 key = storedSubmission s key := by
  rcases transact_cases (t.program env) s with hs | ⟨u, hcommits⟩
  · rw [hs]
  · by_cases hsubmit : .newSelection ∈ t.kinds
    · cases t with
      | submit command actor selectionUuid reviewUuid clock =>
        obtain ⟨result, hcommits⟩ := commits_effect.mp hcommits
        exact storedSubmission_submit hcommits fun he => hkey (congrArg some he.symm)
      | _ => simp [Transaction.kinds] at hsubmit
    · have hselections : ((t.program env).transact s).2.selections = s.selections :=
        relates_of_commits (R := fun a b => b.selections = a.selections) (fun _ => rfl)
          (fun hab hbc => hbc.trans hab)
          (fun hkind hw => hw.selections_eq (fun he => hsubmit (he ▸ hkind)) _) hcommits
      unfold storedSubmission
      rw [hselections]

/-! ### New selections -/

section

variable {env : Env} {s s' : Store}

/-- A submission leaves its selection current and its review pending. -/
theorem Submits.live {command : SubmitProposalCommand} {receipt : SelectionReceipt}
    (h : ReviewInvariant s) (hs : Submits env s command receipt s') :
    Live s' receipt.selection.proposal.caseId receipt.selection := by
  refine ⟨by rw [pointer_eq_refs, hs.refsOf_eq, if_pos rfl], ?_⟩
  obtain ⟨s₁, hopens, hpub⟩ := hs.published
  have hfree : s.selections.Free receipt := hopens.selections_eq ▸ hpub.free
  have fresh := fun r hr => fresh_of_free h hfree (r := r) hr
  have hopen := hopens.opens h.journal fresh
  obtain ⟨st, hready, hsup⟩ := hpub.effect
  rw [Option.all_eq_true]
  intro id hid
  obtain ⟨row, hrow, hpending, -⟩ := hpub.pending id hid
  have hlatest : latestRow s' id = some row := by
    rcases hsup with ⟨-, rfl⟩ | ⟨review, hreview, hsup⟩
    · exact hrow
    · rcases hsup with ⟨rfl, -⟩ | ⟨ended, happends, hsame, -, rfl⟩
      · exact hrow
      · -- the review that ends is not the new one
        obtain ⟨hcurrent, -⟩ := hready.state.currentReviewId_some hreview
        rw [hopen.currentReviewId_eq] at hcurrent
        have hne := h.current_ne_fresh fresh hcurrent
        rw [happends.latestRow_eq rfl, if_neg fun he => hne ?_]
        · exact hrow
        · rw [hid, he, hsame.1]
  rw [hlatest, Option.any_some]
  exact decide_eq_true hpending

/-- What is not touched stays live. -/
theorem Live.of_not_touches {caseId : String} {selection : ProposalSelection}
    (h : Live s caseId selection) (hnot : ¬Touches s s' caseId selection) :
    Live s' caseId selection := by
  obtain ⟨hpointer, hrows⟩ := not_or.mp hnot
  obtain ⟨hcurrent, hpending⟩ := h
  refine ⟨(not_not.mp hpointer).trans hcurrent, ?_⟩
  cases hid : selection.financeReviewId with
  | none => rfl
  | some id =>
    rw [hid] at hpending hrows
    simp only [Option.any_some, decide_eq_true_eq, not_not] at hrows
    rw [Option.all_some, hrows]
    exact hpending

/-- The server commits a submission, or leaves the database alone. -/
theorem submitRoute_step {enabled : Bool} {caseId optionId key : String} {expected : ProposalToken}
    {actor : IdentitySnapshot} {selectionUuid reviewUuid : String} {clock : ClockReading} :
    (submitRoute env enabled caseId optionId expected key actor selectionUuid reviewUuid clock
        s).2 = s ∨
      ∃ command result, submitKey command = "finance-submit:" ++ key ∧ command.caseId = caseId ∧
        (submitTransaction env command actor selectionUuid reviewUuid clock).Commits s result
          (submitRoute env enabled caseId optionId expected key actor selectionUuid reviewUuid
            clock s).2 := by
  unfold submitRoute
  split
  · exact .inl rfl
  · split
    · exact .inl rfl
    · rename_i command hcommand
      rcases hs : submit env command actor selectionUuid reviewUuid clock s with ⟨e | a, s₁⟩
      · exact .inl (withRecovery_error hs)
      · rcases submit_ok hs with hcommit | ⟨hsame, -⟩
        · exact .inr ⟨command, a, SubmitProposalCommand.validate?_key hcommand,
            SubmitProposalCommand.validate?_caseId hcommand, hcommit⟩
        · exact .inl hsame

/-- What a submission stores under its key is live. -/
theorem submitRoute_live {enabled : Bool} {caseId optionId key : String} {expected : ProposalToken}
    {actor : IdentitySnapshot} {selectionUuid reviewUuid : String} {clock : ClockReading}
    (h : ReviewInvariant s)
    (hlive : ∀ receipt, storedSubmission s key = some receipt → Live s caseId receipt.selection)
    {receipt : SelectionReceipt}
    (hstored : storedSubmission (submitRoute env enabled caseId optionId expected key actor
      selectionUuid reviewUuid clock s).2 key = some receipt) :
    Live (submitRoute env enabled caseId optionId expected key actor selectionUuid reviewUuid
      clock s).2 caseId receipt.selection := by
  rcases @submitRoute_step env s enabled caseId optionId key expected actor selectionUuid
    reviewUuid clock with hsame | ⟨command, result, hkey, rfl, hcommit⟩
  · rw [hsame] at hstored ⊢
    exact hlive receipt hstored
  · obtain ⟨stored, hsubmits⟩ := returns_submitTransaction env hcommit
    have hcase := submits_case hcommit hsubmits
    have hrow := (hsubmits.row hcommit).2
    unfold storedSubmission at hstored
    rw [← hkey, hrow] at hstored
    obtain rfl := Option.some.inj hstored
    have hlive := hsubmits.live h
    rwa [hcase] at hlive

end

/-! ### What every event preserves -/

/-- A submission was processed as the route says, with the receipts of its key as they were
at the click. -/
structure Served.Sound (env : Env) (served : Served) : Prop where
  route : ∃ enabled actor selectionUuid reviewUuid clock,
    submitRoute env enabled served.click.caseId served.click.intent.optionId
      served.click.intent.expected served.click.intent.key actor selectionUuid reviewUuid clock
        served.before = (served.answer, served.after)
  unchanged : storedSubmission served.before served.click.intent.key =
    storedSubmission served.click.store served.click.intent.key

/-- Two submissions of one command do not both create a selection. -/
def CreatesOnce (a b : Served) : Prop :=
  a.click.intent = b.click.intent → ¬(a.Creates ∧ b.Creates)

/-- The panel remembers the command of the unsettled click, clicks of one attempt send one
command, and what untouched attempts have created is live. -/
structure DeskInv (env : Env) (s₀ : Store) (desk : Desk) : Prop where
  reaches : Run (Transaction.program env) s₀ desk.store
  remembers : desk.panel.submitIntent = desk.unsettled.map Click.intent
  unsettled : ∀ click, desk.unsettled = some click → click ∈ desk.clicks
  caseId : ∀ click ∈ desk.clicks, click.caseId = desk.panel.caseId
  attempts : ∀ click ∈ desk.clicks, click.attempt < desk.clicks.length ∧
    ∀ other ∈ desk.clicks, click.attempt = other.attempt → click.intent = other.intent
  sent : ∀ click, desk.flight = some (.sent click) → click ∈ desk.clicks ∧
    (∀ last, desk.unsettled = some last → last = click) ∧
    storedSubmission desk.store click.intent.key = storedSubmission click.store click.intent.key
  processed : ∀ served, desk.flight = some (.processed served) → served ∈ desk.served
  sound : ∀ served ∈ desk.served, served.click ∈ desk.clicks ∧ served.Sound env
  grown : ∀ served ∈ desk.served, Grows served.after desk.store
  once : desk.served.Pairwise CreatesOnce
  accepted : ∀ served ∈ desk.accepted, served ∈ desk.served
  live : ReviewInvariant s₀ → ∀ click, desk.unsettled = some click → desk.touched = false →
    ∀ receipt, storedSubmission desk.store click.intent.key = some receipt →
      Live desk.store click.caseId receipt.selection
  clear : ReviewInvariant s₀ → ∀ click ∈ desk.clicks, click.touched = false → click.Clear

section

variable {env : Env} {s₀ : Store} {desk desk' : Desk}

theorem DeskInv.reviews (h : DeskInv env s₀ desk) (h₀ : ReviewInvariant s₀) :
    ReviewInvariant desk.store :=
  h.reaches.invariant (fun hs ⟨_, _, hc⟩ => reviewInvariant_step hs hc) h₀

theorem Panel.failed_submitIntent (panel : Panel) (status : Option ℕ) :
    (panel.failed status).submitIntent =
      if definitive status then none else panel.submitIntent := by
  unfold Panel.failed
  split <;> rfl

theorem Panel.failed_caseId (panel : Panel) (status : Option ℕ) :
    (panel.failed status).caseId = panel.caseId := by
  unfold Panel.failed
  split <;> rfl

theorem Panel.select_submitIntent (panel : Panel) (option : Option ResponseOption) :
    (panel.select option).submitIntent =
      if option.map ResponseOption.optionId = panel.selectedOption.map ResponseOption.optionId then
        panel.submitIntent
      else none := by
  unfold Panel.select
  split <;> rfl

theorem Panel.select_caseId (panel : Panel) (option : Option ResponseOption) :
    (panel.select option).caseId = panel.caseId := by
  unfold Panel.select
  split <;> rfl

theorem Panel.showProposal_submitIntent (panel : Panel) (request : ℕ)
    (state : Option ProposalState) :
    (panel.showProposal request state).submitIntent = panel.submitIntent := by
  unfold Panel.showProposal
  split <;> rfl

theorem Panel.showProposal_caseId (panel : Panel) (request : ℕ) (state : Option ProposalState) :
    (panel.showProposal request state).caseId = panel.caseId := by
  unfold Panel.showProposal
  split <;> rfl

/-- A click sends the remembered command, or else a new one, and remembers it. -/
theorem Panel.submit_eq_some {panel panel' : Panel} {key : String} {intent : SubmitIntent}
    (h : panel.submit key = some (intent, panel')) :
    panel'.submitIntent = some intent ∧ panel'.caseId = panel.caseId ∧
      (∀ remembered, panel.submitIntent = some remembered → intent = remembered) ∧
      (panel.submitIntent = none → intent.key = key) := by
  unfold Panel.submit at h
  split at h
  · split at h
    · simp only [Option.some.injEq, Prod.mk.injEq] at h
      obtain ⟨rfl, rfl⟩ := h
      refine ⟨rfl, rfl, fun remembered hremembered => ?_, fun hnone => ?_⟩
      · rw [hremembered, Option.getD_some]
      · rw [hnone, Option.getD_none]
    · cases h
  · cases h

/-- Whatever leaves the database, the clicks and the submissions as they are, and forgets
the command when the last click is settled. -/
theorem DeskInv.display (h : DeskInv env s₀ desk) (hstore : desk'.store = desk.store)
    (hclicks : desk'.clicks = desk.clicks) (hserved : desk'.served = desk.served)
    (haccepted : desk'.accepted = desk.accepted) (htouched : desk'.touched = desk.touched)
    (hcase : desk'.panel.caseId = desk.panel.caseId)
    (hintent : desk'.panel.submitIntent = desk'.unsettled.map Click.intent)
    (hunsettled : desk'.unsettled = desk.unsettled ∨ desk'.unsettled = none)
    (hflight : desk'.flight = desk.flight ∨ desk'.flight = none) : DeskInv env s₀ desk' := by
  have hlast : ∀ click, desk'.unsettled = some click → desk.unsettled = some click := by
    intro click hsome
    rcases hunsettled with heq | hnone
    · exact heq ▸ hsome
    · rw [hnone] at hsome
      cases hsome
  exact
    { reaches := hstore ▸ h.reaches
      remembers := hintent
      unsettled := fun click hsome => hclicks ▸ h.unsettled click (hlast click hsome)
      caseId := by
        rw [hclicks, hcase]
        exact h.caseId
      attempts := hclicks ▸ h.attempts
      sent := by
        intro click hsent
        rw [hclicks, hstore]
        rcases hflight with heq | hnone
        · obtain ⟨hclick, hsame, hkey⟩ := h.sent click (heq ▸ hsent)
          exact ⟨hclick, fun last hsome => hsame last (hlast last hsome), hkey⟩
        · rw [hnone] at hsent
          cases hsent
      processed := by
        intro served hprocessed
        rw [hserved]
        rcases hflight with heq | hnone
        · exact h.processed served (heq ▸ hprocessed)
        · rw [hnone] at hprocessed
          cases hprocessed
      sound := by
        rw [hserved, hclicks]
        exact h.sound
      grown := by
        rw [hserved, hstore]
        exact h.grown
      once := hserved ▸ h.once
      accepted := by
        rw [hserved, haccepted]
        exact h.accepted
      live := by
        intro h₀ click hsome
        rw [htouched, hstore]
        exact h.live h₀ click (hlast click hsome)
      clear := hclicks ▸ h.clear }

theorem DeskInv.select (h : DeskInv env s₀ desk) (option : Option ResponseOption) :
    DeskInv env s₀ (desk.select option) := by
  refine h.display rfl rfl rfl rfl rfl (Panel.select_caseId _ _) ?_ ?_ (.inl rfl)
  · show (desk.panel.select option).submitIntent = (if _ then _ else _ : Option Click).map _
    rw [Panel.select_submitIntent, h.remembers]
    split <;> rfl
  · show (if _ then _ else _ : Option Click) = _ ∨ (if _ then _ else _ : Option Click) = _
    split
    · exact .inl rfl
    · exact .inr rfl

theorem DeskInv.fail (h : DeskInv env s₀ desk) (status : Option ℕ) :
    DeskInv env s₀ (desk.fail status) := by
  refine h.display rfl rfl rfl rfl rfl (Panel.failed_caseId _ _) ?_ ?_ (.inr rfl)
  · show (desk.panel.failed status).submitIntent = (if _ then _ else _ : Option Click).map _
    rw [Panel.failed_submitIntent, h.remembers]
    split <;> rfl
  · show (if _ then _ else _ : Option Click) = _ ∨ (if _ then _ else _ : Option Click) = _
    split
    · exact .inr rfl
    · exact .inl rfl

theorem DeskInv.endRefresh (h : DeskInv env s₀ desk) (request : ℕ) (state : Option ProposalState) :
    DeskInv env s₀ (desk.endRefresh request state) := by
  have hintent := (desk.panel.showProposal_submitIntent request state).trans h.remembers
  have hcase := desk.panel.showProposal_caseId request state
  unfold Desk.endRefresh
  split
  · split
    · exact h.display rfl rfl rfl rfl rfl hcase hintent (.inl rfl) (.inr rfl)
    · exact h.display rfl rfl rfl rfl rfl hcase hintent (.inl rfl) (.inl rfl)
  · exact h.display rfl rfl rfl rfl rfl hcase hintent (.inl rfl) (.inl rfl)

/-- A click retries the unsettled one, or opens an attempt of its own. -/
theorem DeskInv.click (h : DeskInv env s₀ desk) {key : String}
    (hstep : desk.click key = some desk') : DeskInv env s₀ desk' := by
  unfold Desk.click at hstep
  split at hstep
  · rename_i hoffers
    obtain ⟨-, -, -, hfree⟩ := hoffers
    obtain ⟨⟨intent, panel⟩, hsubmit, rfl⟩ := Option.map_eq_some_iff.mp hstep
    obtain ⟨hintent, hcase, hretries, hnew⟩ := Panel.submit_eq_some hsubmit
    -- what is remembered is the command of the unsettled click
    have hsame : ∀ last, desk.unsettled = some last → intent = last.intent := by
      intro last hlast
      refine hretries _ ?_
      rw [h.remembers, hlast]
      rfl
    have hkey : desk.unsettled = none → storedSubmission desk.store intent.key = none := by
      intro hnone
      rw [hnew (by rw [h.remembers, hnone]; rfl)]
      exact hfree
    have hattempt : (desk.unsettled.map Click.attempt).getD desk.clicks.length ≤
        desk.clicks.length := by
      cases hlast : desk.unsettled with
      | none => exact Nat.le_refl _
      | some last => exact (h.attempts last (h.unsettled last hlast)).1.le
    have hattempts : ∀ other ∈ desk.clicks,
        (desk.unsettled.map Click.attempt).getD desk.clicks.length = other.attempt →
          intent = other.intent := by
      intro other hother heq
      cases hlast : desk.unsettled with
      | none =>
        have hlt := (h.attempts other hother).1
        rw [hlast] at heq
        exact absurd heq.symm hlt.ne
      | some last =>
        rw [hlast] at heq
        rw [hsame last hlast]
        exact (h.attempts last (h.unsettled last hlast)).2 other hother heq
    have hlive : ReviewInvariant s₀ → (desk.unsettled.isSome && desk.touched) = false →
        ∀ receipt, storedSubmission desk.store intent.key = some receipt →
          Live desk.store panel.caseId receipt.selection := by
      intro h₀ htouched receipt hreceipt
      cases hlast : desk.unsettled with
      | none =>
        rw [hkey hlast] at hreceipt
        cases hreceipt
      | some last =>
        rw [hlast, Option.isSome_some, Bool.true_and] at htouched
        rw [hsame last hlast] at hreceipt
        have hlive := h.live h₀ last hlast htouched receipt hreceipt
        rwa [h.caseId last (h.unsettled last hlast), ← hcase] at hlive
    refine
      { reaches := h.reaches, remembers := hintent, unsettled := ?_, caseId := ?_, attempts := ?_,
        sent := ?_, processed := ?_, sound := ?_, grown := h.grown, once := h.once,
        accepted := h.accepted, live := ?_, clear := ?_ }
    · intro click hsome
      obtain rfl := Option.some.inj hsome
      exact List.mem_cons_self ..
    · intro click hclick
      rcases List.mem_cons.mp hclick with rfl | hold
      · rfl
      · exact (h.caseId click hold).trans hcase.symm
    · rintro click hclick
      rcases List.mem_cons.mp hclick with rfl | hold
      · refine ⟨Nat.lt_succ_of_le hattempt, fun other hother heq => ?_⟩
        rcases List.mem_cons.mp hother with rfl | hother
        · rfl
        · exact hattempts other hother heq
      · refine ⟨(h.attempts click hold).1.trans (Nat.lt_succ_self _), fun other hother heq => ?_⟩
        rcases List.mem_cons.mp hother with rfl | hother
        · exact (hattempts click hold heq.symm).symm
        · exact (h.attempts click hold).2 other hother heq
    · intro click hsent
      obtain rfl : _ = click := by simpa using hsent
      exact ⟨List.mem_cons_self .., fun last hlast => (Option.some.inj hlast).symm, rfl⟩
    · intro served hprocessed
      simp at hprocessed
    · intro served hserved
      obtain ⟨hclick, hsound⟩ := h.sound served hserved
      exact ⟨List.mem_cons_of_mem _ hclick, hsound⟩
    · intro h₀ click hsome htouched
      obtain rfl := Option.some.inj hsome
      exact hlive h₀ htouched
    · intro h₀ click hclick htouched
      rcases List.mem_cons.mp hclick with rfl | hold
      · exact hlive h₀ htouched
      · exact h.clear h₀ click hold htouched
  · cases hstep

/-- The server processes a submission: its key is as it was at the click, what earlier
submissions have created is still there, and what this one creates is live. -/
theorem DeskInv.process (h : DeskInv env s₀ desk) {enabled : Bool} {actor : IdentitySnapshot}
    {selectionUuid reviewUuid : String} {clock : ClockReading}
    (hstep : desk.process env enabled actor selectionUuid reviewUuid clock = some desk') :
    DeskInv env s₀ desk' := by
  unfold Desk.process at hstep
  split at hstep
  · rename_i click hflight
    obtain ⟨hclick, hlast, hunchanged⟩ := h.sent click hflight
    obtain rfl := Option.some.inj hstep
    have hgrows := @submitRoute_grows env desk.store enabled click.caseId click.intent.optionId
      click.intent.key click.intent.expected actor selectionUuid reviewUuid clock
    refine
      { reaches := ?_, remembers := h.remembers, unsettled := h.unsettled, caseId := h.caseId,
        attempts := h.attempts, sent := ?_, processed := ?_, sound := ?_, grown := ?_, once := ?_,
        accepted := ?_, live := ?_, clear := h.clear }
    · rcases @submitRoute_step env desk.store enabled click.caseId click.intent.optionId
        click.intent.key click.intent.expected actor selectionUuid reviewUuid clock with
        hsame | ⟨command, result, -, -, hcommit⟩
      · rw [hsame]
        exact h.reaches
      · exact h.reaches.tail
          ⟨.submit command actor selectionUuid reviewUuid clock, (), commits_effect.mpr ⟨_, hcommit⟩⟩
    · intro other hsent
      simp at hsent
    · intro served hprocessed
      obtain rfl : _ = served := by simpa using hprocessed
      exact List.mem_append_right _ (List.mem_singleton.mpr rfl)
    · intro served hserved
      rcases List.mem_append.mp hserved with hold | hnew
      · exact h.sound served hold
      · obtain rfl := List.mem_singleton.mp hnew
        exact ⟨hclick, ⟨enabled, actor, selectionUuid, reviewUuid, clock, Prod.mk.eta.symm⟩,
          hunchanged⟩
    · intro served hserved
      rcases List.mem_append.mp hserved with hold | hnew
      · exact (h.grown served hold).trans hgrows
      · obtain rfl := List.mem_singleton.mp hnew
        exact .refl _
    · refine List.pairwise_append.mpr ⟨h.once, List.pairwise_singleton _ _, ?_⟩
      intro served hserved other hother hintent hboth
      obtain rfl := List.mem_singleton.mp hother
      obtain ⟨⟨-, hcreated⟩, hnone, -⟩ := hboth
      obtain ⟨receipt, hreceipt⟩ := Option.isSome_iff_exists.mp hcreated
      have hstored : storedSubmission desk.store served.click.intent.key = some receipt :=
        (h.grown served hserved).selections hreceipt
      rw [hintent] at hstored
      cases hstored.symm.trans hnone
    · exact fun served hserved => List.mem_append_left _ (h.accepted served hserved)
    · intro h₀ last hsome htouched receipt hreceipt
      obtain rfl := hlast last hsome
      exact submitRoute_live (h.reviews h₀) (h.live h₀ last hsome htouched) hreceipt
  · cases hstep

theorem DeskInv.answer (h : DeskInv env s₀ desk) (hstep : desk.answer = some desk') :
    DeskInv env s₀ desk' := by
  unfold Desk.answer at hstep
  split at hstep
  · rename_i served hflight
    split at hstep
    · obtain rfl := Option.some.inj hstep
      refine
        { reaches := h.reaches, remembers := rfl, unsettled := ?_, caseId := h.caseId,
          attempts := h.attempts, sent := ?_, processed := ?_, sound := h.sound,
          grown := h.grown, once := h.once, accepted := ?_, live := ?_, clear := h.clear }
      · intro click hsome
        cases hsome
      · intro click hsent
        cases hsent
      · intro served hprocessed
        cases hprocessed
      · intro other hother
        rcases List.mem_append.mp hother with hold | hnew
        · exact h.accepted other hold
        · obtain rfl := List.mem_singleton.mp hnew
          exact h.processed _ hflight
      · intro _ click hsome
        cases hsome
    · obtain rfl := Option.some.inj hstep
      exact h.fail _
  · cases hstep

theorem DeskInv.lose (h : DeskInv env s₀ desk) {status : Option ℕ}
    (hstep : desk.lose status = some desk') : DeskInv env s₀ desk' := by
  unfold Desk.lose at hstep
  split at hstep
  · obtain rfl := Option.some.inj hstep
    exact h.fail _
  · obtain rfl := Option.some.inj hstep
    exact h.fail _
  · cases hstep

/-- What others commit adds no receipt under a key of the panel. -/
theorem DeskInv.other (h : DeskInv env s₀ desk) {t : Transaction}
    (hkeys : ∀ key ∈ desk.keys, t.submissionKey? ≠ some key) :
    DeskInv env s₀ (desk.other env t) where
  reaches := by
    rcases transact_cases (t.program env) desk.store with hs | ⟨u, hcommits⟩
    · show Run _ s₀ ((t.program env).transact desk.store).2
      rw [hs]
      exact h.reaches
    · exact h.reaches.tail ⟨t, u, hcommits⟩
  remembers := h.remembers
  unsettled := h.unsettled
  caseId := h.caseId
  attempts := h.attempts
  sent := by
    intro click hsent
    obtain ⟨hclick, hlast, hunchanged⟩ := h.sent click hsent
    have hkey := hkeys _ (List.mem_map_of_mem hclick)
    exact ⟨hclick, hlast, (storedSubmission_other hkey desk.store).trans hunchanged⟩
  processed := h.processed
  sound := h.sound
  grown := by
    intro served hserved
    refine (h.grown served hserved).trans ?_
    rcases transact_cases (t.program env) desk.store with hs | ⟨u, hcommits⟩
    · show Grows _ ((t.program env).transact desk.store).2
      rw [hs]
      exact .refl _
    · exact grows_of_commits hcommits
  once := h.once
  accepted := h.accepted
  live := by
    intro h₀ last hlast htouched receipt hreceipt
    obtain ⟨hbefore, hnot⟩ := Bool.or_eq_false_iff.mp htouched
    have hkey := hkeys _ (List.mem_map_of_mem (h.unsettled last hlast))
    have hstored := (storedSubmission_other hkey desk.store).symm.trans hreceipt
    have hsome : desk.unsettled = some last := hlast
    rw [hsome, Option.any_some, hstored, Option.any_some] at hnot
    exact (h.live h₀ last hlast hbefore receipt hstored).of_not_touches (of_decide_eq_false hnot)
  clear := h.clear

theorem DeskInv.step (h : DeskInv env s₀ desk) {event : DeskEvent}
    (hstep : desk.step env event = some desk') : DeskInv env s₀ desk' := by
  have hdisplay : ∀ shown : Desk, shown.store = desk.store → shown.clicks = desk.clicks →
      shown.served = desk.served → shown.accepted = desk.accepted →
      shown.touched = desk.touched → shown.panel.caseId = desk.panel.caseId →
      shown.panel.submitIntent = desk.panel.submitIntent → shown.unsettled = desk.unsettled →
      shown.flight = desk.flight → DeskInv env s₀ shown :=
    fun shown hs hc hv ha ht hcase hi hu hf => h.display hs hc hv ha ht hcase
      (hi.trans (h.remembers.trans (congrArg _ hu.symm))) (.inl hu) (.inl hf)
  cases event with
  | select option =>
    obtain rfl := Option.some.inj hstep
    exact h.select option
  | receive decision =>
    obtain rfl := Option.some.inj hstep
    exact hdisplay _ rfl rfl rfl rfl rfl rfl rfl rfl rfl
  | poll =>
    obtain rfl := Option.some.inj hstep
    exact hdisplay _ rfl rfl rfl rfl rfl rfl rfl rfl rfl
  | read request actor =>
    obtain rfl := Option.some.inj hstep
    exact hdisplay _ rfl rfl rfl rfl rfl rfl rfl rfl rfl
  | arrive request =>
    obtain ⟨refresh, -, hend⟩ := Option.bind_eq_some_iff.mp hstep
    obtain ⟨answer, -, rfl⟩ := Option.map_eq_some_iff.mp hend
    exact h.endRefresh request _
  | loseRefresh request =>
    simp only [Desk.step] at hstep
    split at hstep
    · obtain rfl := Option.some.inj hstep
      exact h.endRefresh request none
    · cases hstep
  | click key =>
    rw [Desk.step] at hstep
    exact h.click hstep
  | process enabled actor selectionUuid reviewUuid clock =>
    rw [Desk.step] at hstep
    exact h.process hstep
  | answer =>
    rw [Desk.step] at hstep
    exact h.answer hstep
  | lose status =>
    rw [Desk.step] at hstep
    exact h.lose hstep
  | other t =>
    simp only [Desk.step] at hstep
    split at hstep
    · rename_i hall
      obtain rfl := Option.some.inj hstep
      refine h.other fun key hkey hsome => ?_
      rw [hsome] at hall
      exact of_decide_eq_true hall hkey
    · cases hstep

theorem deskInv_of_run {events : List DeskEvent} (h : DeskInv env s₀ desk)
    (hrun : Desk.run env events desk = some desk') : DeskInv env s₀ desk' := by
  induction events generalizing desk with
  | nil =>
    obtain rfl := Option.some.inj hrun
    exact h
  | cons event events ih =>
    obtain ⟨next, hstep, hrest⟩ := Option.bind_eq_some_iff.mp hrun
    exact ih (h.step hstep) hrest

theorem deskInv_start (store : Store) (caseId : String) (analysis : DisplayedAnalysis)
    (option : Option ResponseOption) (enabled : Bool) :
    DeskInv env store (Desk.start store caseId analysis option enabled) where
  reaches := .refl
  remembers := rfl
  unsettled _ h := nomatch h
  caseId _ h := absurd h List.not_mem_nil
  attempts _ h := absurd h List.not_mem_nil
  sent _ h := nomatch h
  processed _ h := nomatch h
  sound _ h := absurd h List.not_mem_nil
  grown _ h := absurd h List.not_mem_nil
  once := .nil
  accepted _ h := absurd h List.not_mem_nil
  live _ _ h := nomatch h
  clear _ _ h := absurd h List.not_mem_nil

/-! ### Accepted submissions -/

/-- An accepted submission answers its click just when what a remembered command has
created has not come to its end. -/
theorem Served.Sound.answered_iff {served : Served} (h : served.Sound env)
    {result : SubmissionResult} (hok : served.answer = .ok result) :
    (served.Created result ∨ served.ReplayedLive result) ↔ served.click.Clear := by
  obtain ⟨enabled, actor, selectionUuid, reviewUuid, clock, hroute⟩ := h.route
  rw [hok] at hroute
  obtain ⟨hreplayed, hcreated⟩ := submitRoute_ok hroute
  unfold Served.Created Served.ReplayedLive Click.Clear
  rw [← h.unchanged]
  cases hstored : storedSubmission served.before served.click.intent.key with
  | none =>
    obtain ⟨receipt, hafter, hselection⟩ := hcreated hstored
    refine ⟨fun _ receipt' hreceipt' => ?_, fun _ => .inl ⟨rfl, receipt, hafter, hselection⟩⟩
    cases hreceipt'
  | some receipt =>
    have hselection := (hreplayed receipt hstored).1
    constructor
    · rintro (⟨hnone, -⟩ | ⟨_, hsome, -, hlive⟩) receipt' hreceipt'
      · cases hnone
      · obtain rfl := Option.some.inj (hsome.symm.trans hreceipt')
        exact hlive
    · intro hclear
      exact .inr ⟨receipt, rfl, hselection.symm, hclear receipt rfl⟩

/-- A rejected selection is not live. -/
theorem RejectedOn.not_live {s : Store} {caseId key : String} (h : RejectedOn s caseId)
    {receipt : SelectionReceipt} (hstored : storedSubmission s key = some receipt) :
    ¬Live s caseId receipt.selection := by
  obtain ⟨rejected, hmem, hpointer, id, hid, row, hrow, hstatus⟩ := h
  rintro ⟨hcurrent, hpending⟩
  -- the current selection has one receipt
  have hsame : receipt = rejected := by
    refine Table.eq_of_key (Table.mem_of_get? hstored) hmem
      (k := Key.selection receipt.selection.selectionId) ?_ ?_
    · simp [Keyed.keys]
    · have hids := Option.some.inj (hcurrent.symm.trans hpointer)
      simp [Keyed.keys, hids]
  subst hsame
  rw [Option.mem_def.mp hid, Option.all_some, hrow, Option.any_some, hstatus] at hpending
  cases hpending

/-- After a rejection, an accepted submission that is clear has created its selection. -/
theorem Served.Sound.created_of_rejected {served : Served} (h : served.Sound env)
    {result : SubmissionResult} (hok : served.answer = .ok result) (hclear : served.click.Clear)
    (hrejected : RejectedOn served.click.store served.click.caseId) : served.Created result := by
  rcases (h.answered_iff hok).mpr hclear with hcreated | ⟨receipt, hstored, -, hlive⟩
  · exact hcreated
  · rw [h.unchanged] at hstored
    exact absurd hlive (hrejected.not_live hstored)

end

/-- In every run of the panel: clicks that retry after an uncertain answer send one command,
and create at most one selection; an accepted submission whose click retries nothing that
others have touched created its selection, or replayed one that was live at the click; and
after a rejection it created one. -/
theorem submissions_answered (env : Env) (store : Store) (caseId : String)
    (analysis : DisplayedAnalysis) (option : Option ResponseOption) (enabled : Bool)
    (events : List DeskEvent) (desk : Desk)
    (hrun : Desk.run env events (Desk.start store caseId analysis option enabled) = some desk) :
    (∀ a ∈ desk.clicks, ∀ b ∈ desk.clicks, a.attempt = b.attempt → a.intent = b.intent) ∧
    desk.served.Pairwise (fun a b =>
      a.click.attempt = b.click.attempt → ¬(a.Creates ∧ b.Creates)) ∧
    (Run (Transaction.program env) Store.empty store →
      ∀ served ∈ desk.accepted, ∀ result, served.answer = .ok result →
        served.click.touched = false →
          (served.Created result ∨ served.ReplayedLive result) ∧
          (RejectedOn served.click.store served.click.caseId → served.Created result)) := by
  have h := deskInv_of_run (deskInv_start store caseId analysis option enabled) hrun
  refine ⟨fun a ha b hb => (h.attempts a ha).2 b hb, ?_,
    fun hstore served haccepted result hok htouched => ?_⟩
  · refine h.once.imp_of_mem fun {a b} ha hb honce hattempt => honce ?_
    exact (h.attempts _ (h.sound a ha).1).2 _ (h.sound b hb).1 hattempt
  · obtain ⟨hclick, hsound⟩ := h.sound served (h.accepted served haccepted)
    have hclear := h.clear (reviewInvariant_of_run hstore) _ hclick htouched
    exact ⟨(hsound.answered_iff hok).mpr hclear, hsound.created_of_rejected hok hclear⟩


/-! ### A lost answer, a retry and a rejection -/

/-- Taylor rejects the selection of the sample submission. -/
def sampleRejection : ResolveFinanceCommand :=
  { sampleResolve with
    approved := false
    reason := some "over budget"
    idempotencyKey := "reject"
    valid := by decide }

def sampleDesk : Desk :=
  .start sampleAnalyzed "case" ⟨"analysis", hexText 'a'⟩ (some (sampleOption 25000)) true

/-- The answer to a submission is lost, and its retry answered; the selection is rejected,
and the response submitted again. -/
def sampleRetry : List DeskEvent :=
  [.poll, .read 1 sampleAlex, .arrive 1, .click "proposal-1",
    .process true sampleAlex "1" "1" (some 0), .lose none, .click "proposal-2",
    .process true sampleAlex "2" "2" (some 0), .answer, .read 4 sampleAlex, .arrive 4,
    .other (.resolve sampleRejection sampleTaylor (some 0)),
    .poll, .read 5 sampleAlex, .arrive 5, .click "proposal-3",
    .process true sampleAlex "3" "3" (some 0), .answer]

/-- An accepted submission that the theorem speaks of. -/
def Served.untouched (served : Served) : Bool := served.answer.toBool && !served.click.touched

/-- The case was rejected when the click was made. -/
def Served.afterRejection (served : Served) : Bool :=
  served.click.store.selections.rows.any fun receipt =>
    decide (pointer served.click.store served.click.caseId = some receipt.selection.selectionId) &&
      receipt.selection.financeReviewId.any fun id =>
        (latestRow served.click.store id).any fun row => row.review.status = .rejected

theorem Served.rejectedOn_of_afterRejection {served : Served}
    (h : served.afterRejection = true) : RejectedOn served.click.store served.click.caseId := by
  obtain ⟨receipt, hreceipt, h⟩ := List.any_eq_true.mp h
  obtain ⟨hpointer, h⟩ := Bool.and_eq_true_iff.mp h
  obtain ⟨id, hid, h⟩ := (Option.any_eq_true _ _).mp h
  obtain ⟨row, hrow, hstatus⟩ := (Option.any_eq_true _ _).mp h
  exact ⟨receipt, hreceipt, of_decide_eq_true hpointer, id, hid, row, hrow,
    of_decide_eq_true hstatus⟩

theorem Served.answer_of_untouched {served : Served} (h : served.untouched = true) :
    (∃ result, served.answer = .ok result) ∧ served.click.touched = false := by
  obtain ⟨hok, htouched⟩ := Bool.and_eq_true_iff.mp h
  refine ⟨?_, by simpa using htouched⟩
  cases hanswer : served.answer with
  | error status =>
    rw [hanswer] at hok
    cases hok
  | ok result => exact ⟨result, rfl⟩

/-- The retry sends the key of the lost submission and is answered with its live selection;
the click after the rejection creates another one. -/
theorem submissions_answered_sample :
    ∃ desk retry again, Desk.run sampleEnv sampleRetry sampleDesk = some desk ∧
      desk.clicks.map (fun click => (click.attempt, click.intent.key)) =
        [(2, "proposal-3"), (0, "proposal-1"), (0, "proposal-1")] ∧
      desk.accepted = [retry, again] ∧
      (∃ result, retry.answer = .ok result ∧ (retry.Created result ∨ retry.ReplayedLive result)) ∧
      ∃ result, again.answer = .ok result ∧ again.Created result := by
  have hcheck : (Desk.run sampleEnv sampleRetry sampleDesk).any (fun desk =>
      decide (desk.clicks.map (fun click => (click.attempt, click.intent.key)) =
          [(2, "proposal-3"), (0, "proposal-1"), (0, "proposal-1")] ∧ desk.accepted.length = 2) &&
        (desk.accepted.all Served.untouched && (desk.accepted.drop 1).all Served.afterRejection)) =
          true := by
    decide +kernel
  obtain ⟨desk, hdesk, hcheck⟩ := (Option.any_eq_true _ _).mp hcheck
  obtain ⟨hclicks, hcheck⟩ := Bool.and_eq_true_iff.mp hcheck
  obtain ⟨hclicks, htwo⟩ := of_decide_eq_true hclicks
  obtain ⟨huntouched, hrejected⟩ := Bool.and_eq_true_iff.mp hcheck
  obtain ⟨-, -, hanswered⟩ := submissions_answered sampleEnv sampleAnalyzed "case"
    ⟨"analysis", hexText 'a'⟩ (some (sampleOption 25000)) true _ desk hdesk
  have hanswered := hanswered sampleAnalyzed_run
  obtain ⟨retry, again, haccepted⟩ := List.length_eq_two.mp htwo
  rw [haccepted] at huntouched hrejected
  have hretry := List.all_eq_true.mp huntouched retry (List.mem_cons_self ..)
  have hagain := List.all_eq_true.mp huntouched again (by simp)
  obtain ⟨⟨result, hresult⟩, hretry⟩ := Served.answer_of_untouched hretry
  obtain ⟨⟨result', hresult'⟩, hagain⟩ := Served.answer_of_untouched hagain
  refine ⟨desk, retry, again, hdesk, hclicks, haccepted, ⟨result, hresult, ?_⟩, result', hresult', ?_⟩
  · exact (hanswered retry (by simp [haccepted]) result hresult hretry).1
  · exact (hanswered again (by simp [haccepted]) result' hresult' hagain).2
      (Served.rejectedOn_of_afterRejection
        (List.all_eq_true.mp hrejected again (List.mem_singleton_self again)))

/-- The answer to a submission is lost, the selection is rejected, and the click after the
next poll sends the command again. -/
def sampleLostAnswer : List DeskEvent :=
  [.poll, .read 1 sampleAlex, .arrive 1, .click "proposal-1",
    .process true sampleAlex "1" "1" (some 0), .lose none,
    .other (.resolve sampleRejection sampleTaylor (some 0)),
    .poll, .read 3 sampleAlex, .arrive 3, .click "proposal-2",
    .process true sampleAlex "2" "2" (some 0), .answer]

/-- The click after the rejection is answered with the rejected selection. -/
theorem rejected_selection_replayed :
    ¬ ∀ (env : Env) (store : Store) (caseId : String) (analysis : DisplayedAnalysis)
      (option : Option ResponseOption) (enabled : Bool) (events : List DeskEvent) (desk : Desk),
      Run (Transaction.program env) Store.empty store →
      Desk.run env events (Desk.start store caseId analysis option enabled) = some desk →
      ∀ served ∈ desk.accepted, ∀ result, served.answer = .ok result →
        served.Created result ∨ served.ReplayedLive result := by
  intro h
  have hstale : (Desk.run sampleEnv sampleLostAnswer sampleDesk).any (fun desk =>
      desk.accepted.any fun served => served.answer.toBool && served.afterRejection &&
        (storedSubmission served.click.store served.click.intent.key).isSome) = true := by
    decide +kernel
  obtain ⟨desk, hdesk, hstale⟩ := (Option.any_eq_true _ _).mp hstale
  obtain ⟨served, haccepted, hstale⟩ := List.any_eq_true.mp hstale
  obtain ⟨hstale, hstored⟩ := Bool.and_eq_true_iff.mp hstale
  obtain ⟨hok, hrejected⟩ := Bool.and_eq_true_iff.mp hstale
  obtain ⟨receipt, hreceipt⟩ := Option.isSome_iff_exists.mp hstored
  have hinv := deskInv_of_run (deskInv_start _ _ _ _ _) hdesk
  obtain ⟨-, hsound⟩ := hinv.sound served (hinv.accepted served haccepted)
  cases hanswer : served.answer with
  | error status =>
    rw [hanswer] at hok
    cases hok
  | ok result =>
    have hclear := (hsound.answered_iff hanswer).mp
      (h _ _ _ _ _ _ _ desk sampleAnalyzed_run hdesk served haccepted result hanswer)
    exact (Served.rejectedOn_of_afterRejection hrejected).not_live hreceipt (hclear receipt hreceipt)

end SupplyResponse
