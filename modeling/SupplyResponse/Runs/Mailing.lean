/-
The supplier emails over every history of committed transactions.

* `EmailStep`, `emailStep_of_commits` — what each transaction did to the
  revisions and deliveries of the emails;
* `Unidentified` — no delivery ever has a provider message id;
* `unresolved_unreachable` — so `check_send_status` never gets as far as the
  provider for a submission that is not resolved.
-/
import SupplyResponse.Runs.Planning

namespace SupplyResponse

open Transact Transact.Prog

variable {env : Env} {s s' : Store}

/-! ### One step -/

/-- The statements that write emails. -/
def emailKinds : List WriteKind :=
  [.newDelivery, .newRevision, .lockDelivery, .setDelivery, .claimDelivery, .moveDelivery,
    .markRevision]

theorem Writing.sameEmails {kind : WriteKind} {v : Store} {l : List Key} {u : Store → Store}
    (h : Writing kind v l u) (hk : kind ∉ emailKinds) : SameEmails v (u v) := by
  cases h
  case newDelivery => exact absurd (by decide) hk
  case newRevision => exact absurd (by decide) hk
  case lockDelivery => exact absurd (by decide) hk
  case setDelivery => exact absurd (by decide) hk
  case claimDelivery => exact absurd (by decide) hk
  case moveDelivery => exact absurd (by decide) hk
  case markRevision => exact absurd (by decide) hk
  all_goals exact ⟨rfl, rfl⟩

/-- What a committed transaction did to the emails. -/
inductive EmailStep (s s' : Store) : Prop
  | quiet (same : SameEmails s s')
  | created (decisionId : String) (revision : SupplierEmailRevision)
    (delivery : SupplierEmailDelivery) (h : CreatesEmail s decisionId revision delivery s')
  | edited (decisionId : String) (changed : SupplierEmailRevision)
    (h : EditsEmail s decisionId changed s')
  | reviewed (decisionId : String) (previous : SupplierEmailRevision)
    (delivery : SupplierEmailDelivery) (actor : IdentitySnapshot) (now : Instant)
    (h : ReviewsEmail s decisionId previous delivery actor now s')
  | claimed (decisionId correlationId : String) (content : SupplierEmailRevision)
    (delivery : SupplierEmailDelivery) (now : Instant)
    (h : ClaimsEmail s decisionId content delivery correlationId now s')
  | moved (decisionId correlationId : String) (statuses : List SupplierEmailSendStatus)
    (status : SupplierEmailSendStatus) (failureCode : Option String) (now : Instant)
    (h : MovesEmail s decisionId correlationId statuses status failureCode now s')

theorem emailStep_of_commits {t : Transaction} {u : Unit}
    (hc : (t.program env).Commits s u s') : EmailStep s s' := by
  have hquiet : (∀ kind ∈ t.kinds, kind ∉ emailKinds) → EmailStep s s' := fun hk =>
    .quiet (relates_of_commits SameEmails.refl SameEmails.trans
      (fun hkind hw => hw.sameEmails (hk _ hkind)) hc)
  cases t
  case getEmail config decisionId now =>
    obtain ⟨state, hcommits⟩ := commits_effect.mp hc
    exact .created decisionId state.1 state.2 (commits_getEmail env config hcommits)
  case saveEmail config decisionId revision subject body actor now =>
    obtain ⟨state, hcommits⟩ := commits_effect.mp hc
    exact .edited decisionId state.1 (commits_saveEmail env config hcommits)
  case reviewEmail config decisionId revision actor now =>
    obtain ⟨state, hcommits⟩ := commits_effect.mp hc
    obtain ⟨previous, delivery, -, h⟩ := commits_reviewEmail env config hcommits
    exact .reviewed decisionId previous delivery actor now h
  case claimEmail config decisionId revision actor correlationId now =>
    obtain ⟨claim, hcommits⟩ := commits_effect.mp hc
    obtain ⟨content, delivery, -, -, h⟩ := commits_claimEmail env config hcommits
    exact .claimed decisionId correlationId content delivery now h
  case recordOutcome decisionId correlationId now outcome =>
    obtain ⟨state, hcommits⟩ := commits_effect.mp hc
    cases outcome <;> exact .moved _ _ _ _ _ _ (commits_transition hcommits)
  case recordCheck decisionId correlationId now result =>
    obtain ⟨state, hcommits⟩ := commits_effect.mp hc
    cases result <;> exact .moved _ _ _ _ _ _ (commits_transition hcommits)
  all_goals
    refine hquiet ?_
    dsimp only [Transaction.kinds]
    decide

/-! ### Provider message ids -/

/-- No delivery has a provider message id. -/
def Unidentified (s : Store) : Prop := ∀ d ∈ s.deliveries, d.providerMessageId = none

/-- A delivery rewritten without a provider message id. -/
theorem Unidentified.modify {delivery : SupplierEmailDelivery} {k : Key}
    {hf : ∀ r, k ∈ Keyed.keys r → Keyed.keys (delivery.rewritten r) = Keyed.keys r}
    (h : Unidentified s) (hd : delivery.providerMessageId = none)
    (heq : s'.deliveries = s.deliveries.modify k delivery.rewritten hf) : Unidentified s' := by
  intro x hx
  rw [heq, Table.mem_modify] at hx
  obtain ⟨r, hr, rfl⟩ := hx
  split
  · exact hd
  · exact h r hr

theorem CurrentEmail.unidentified {decisionId : String} {revision : SupplierEmailRevision}
    {delivery : SupplierEmailDelivery} (h : CurrentEmail s decisionId revision delivery)
    (hs : Unidentified s) : delivery.providerMessageId = none :=
  hs delivery (Table.mem_of_get? h.stored)

/-- No writer ever sets a provider message id. -/
theorem EmailStep.unidentified (h : EmailStep s s') (hs : Unidentified s) : Unidentified s' := by
  cases h with
  | quiet same => exact fun d hd => hs d (same.deliveries ▸ hd)
  | created _ _ delivery h =>
    intro d hd
    rw [h.deliveries, Table.mem_add h.free.1] at hd
    rcases hd with hd | rfl
    · exact hs d hd
    · exact h.draft.2.2.2.2.1
  | edited _ _ h =>
    obtain ⟨_, _, -, -, -, -, heq⟩ := h.current
    exact hs.modify rfl heq
  | reviewed _ previous delivery _ now h =>
    have hid : (delivery.review previous now).providerMessageId = none :=
      h.current.unidentified hs
    exact hs.modify hid h.deliveries
  | claimed _ _ _ _ _ h => exact hs.modify rfl h.deliveries
  | moved _ _ _ status failureCode now h =>
    obtain ⟨_, delivery, hcurrent, -, -, heq⟩ := h.current
    have hid : (delivery.outcome status none none failureCode now).providerMessageId = none :=
      hcurrent.unidentified hs
    exact hs.modify hid heq

theorem unidentified_of_run (h : Run (Transaction.program env) Store.empty s) : Unidentified s :=
  h.invariant (fun hs ⟨_, _, hc⟩ => (emailStep_of_commits hc).unidentified hs)
    fun _ hd => absurd hd List.not_mem_nil

/-! ### Reconciliation -/

/-- The submission was handed to the provider and its end is not known. -/
def SupplierEmailDelivery.Unresolved (delivery : SupplierEmailDelivery) : Prop :=
  delivery.sendStatus ∈ [SupplierEmailSendStatus.submitting, .accepted, .uncertain]

instance : DecidablePred SupplierEmailDelivery.Unresolved :=
  fun _ => inferInstanceAs (Decidable (_ ∈ _))

theorem raises_checkRecords {config : MailConfig} {decisionId : String}
    {revision : SupplierEmailRevision} {delivery : SupplierEmailDelivery}
    {actor : IdentitySnapshot} {s₁ : Store} (henabled : config.mailSendEnabled = true)
    (hrecords : (sendRecords env config decisionId revision.revision actor).Returns s
      (revision, delivery) s₁)
    (hopen : delivery.Unresolved) (hid : delivery.providerMessageId = none) :
    (checkRecords env config decisionId actor).Raises s
      (emailStateError "Send status is not available to check.") := by
  obtain ⟨-, hcurrent, -⟩ := returns_sendRecords env config hrecords
  refine (returns_require.mpr ⟨henabled, rfl⟩ : Returns _ s () s).raises_bind ?_
  refine hcurrent.returns.raises_bind ?_
  refine (show Returns _ s (revision, delivery) s from returns_orRaise.mpr ⟨rfl, rfl⟩).raises_bind ?_
  refine hrecords.raises_bind (Raises.bind (raises_require ?_))
  rintro (hconfirmed | ⟨-, hsome, -⟩)
  · rw [SupplierEmailDelivery.Unresolved, hconfirmed] at hopen
    exact absurd hopen (by decide)
  · rw [hid] at hsome
    cases hsome

/-- In every history: while the Decision of a submission that is not resolved is
current, `check_send_status` by the configured actor raises `EmailStateError`
before it asks the provider, whatever the mailbox holds. -/
theorem unresolved_unreachable {config : MailConfig} {decisionId : String}
    {revision : SupplierEmailRevision} {delivery : SupplierEmailDelivery}
    {actor : IdentitySnapshot} {s₁ : Store}
    (h : Run (Transaction.program env) Store.empty s) (henabled : config.mailSendEnabled = true)
    (hrecords : (sendRecords env config decisionId revision.revision actor).Returns s
      (revision, delivery) s₁)
    (hopen : delivery.Unresolved) (lookup : String → Option ProviderMessage) (now : Instant) :
    (checkSendStatus env config decisionId actor lookup now).step s =
      (.raise (emailStateError "Send status is not available to check."), s) := by
  obtain ⟨-, hcurrent, -⟩ := returns_sendRecords env config hrecords
  have hid := hcurrent.unidentified (unidentified_of_run h)
  exact Process.step_transaction_bind_of_raises (raises_checkRecords henabled hrecords hopen hid)

def sampleMail : MailConfig where
  fromAddress := "alex@example"
  toAddress := "supplier@example"
  configuredActor := sampleAlex
  mailSendEnabled := true

/-- The email of the approval of the sample case is accepted by the provider. -/
def sampleMailing : List Transaction :=
  samplePlanning ++
    [.getEmail sampleMail "RL-DECISION-1" 2,
      .reviewEmail sampleMail "RL-DECISION-1" 1 sampleAlex 3,
      .claimEmail sampleMail "RL-DECISION-1" 1 sampleAlex "correlation" 4,
      .recordOutcome "RL-DECISION-1" "correlation" 5 .accepted]

/-- The records of the submission of the sample case can be read. -/
theorem sampleMailing_records :
    ∃ revision delivery s₁, (sendRecords sampleEnv sampleMail "RL-DECISION-1"
      revision.revision sampleAlex).Returns
        (history (Transaction.program sampleEnv) sampleMailing Store.empty) (revision, delivery)
        s₁ ∧ delivery.sendStatus = .accepted := by
  have hstate : (sendRecords sampleEnv sampleMail "RL-DECISION-1" 1 sampleAlex).checkReturned
      (history (Transaction.program sampleEnv) sampleMailing Store.empty)
      (fun state _ => state.2.sendStatus = .accepted) = true := by
    decide +kernel
  obtain ⟨state, s₁, hrun, haccepted⟩ := exists_of_checkReturned hstate
  have hrevision := (returns_sendRecords sampleEnv sampleMail hrun).2.2.1
  exact ⟨state.1, state.2, s₁, by rw [hrevision]; exact hrun, of_decide_eq_true haccepted⟩

/-- The accepted submission of the sample case cannot be checked: the provider
is not asked about a message that it would report as sent. -/
theorem accepted_unreachable :
    ∃ (s : Store) (delivery : SupplierEmailDelivery),
      Run (Transaction.program sampleEnv) Store.empty s ∧
      deliveryOf s "RL-DECISION-1" = some delivery ∧ delivery.sendStatus = .accepted ∧
      ∀ lookup now, ∃ e, e.cls = .emailStateError ∧
        (checkSendStatus sampleEnv sampleMail "RL-DECISION-1" sampleAlex lookup now).step s =
          (.raise e, s) := by
  obtain ⟨revision, delivery, s₁, hrecords, haccepted⟩ := sampleMailing_records
  have hrun := Run.history (Transaction.program sampleEnv) sampleMailing Store.empty
  obtain ⟨-, hcurrent, -⟩ := returns_sendRecords sampleEnv sampleMail hrecords
  have hopen : delivery.Unresolved := by
    rw [SupplierEmailDelivery.Unresolved, haccepted]
    decide
  have hid := hcurrent.unidentified (unidentified_of_run hrun)
  exact ⟨_, delivery, hrun, hcurrent.stored, haccepted, fun lookup now => ⟨_, rfl,
    Process.step_transaction_bind_of_raises (raises_checkRecords rfl hrecords hopen hid)⟩⟩

theorem unresolved_unreachable_sample :
    ∃ (s : Store) (e : Raised), e.cls = .emailStateError ∧
      (checkSendStatus sampleEnv sampleMail "RL-DECISION-1" sampleAlex (fun _ => none) 6).step s =
        (.raise e, s) := by
  obtain ⟨revision, delivery, s₁, hrecords, haccepted⟩ := sampleMailing_records
  have hopen : delivery.Unresolved := by
    rw [SupplierEmailDelivery.Unresolved, haccepted]
    decide
  exact ⟨_, _, rfl, unresolved_unreachable
    (Run.history (Transaction.program sampleEnv) sampleMailing Store.empty) rfl hrecords hopen
    (fun _ => none) 6⟩

end SupplyResponse
