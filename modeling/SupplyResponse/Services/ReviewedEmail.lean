/-
The reviewed supplier email of a Decision (`services/execution/mail_service.py`).

* `getEmail`, `saveEmail`, `reviewEmail` — the first revision, its edits and
  its review;
* `claimEmail`, `transition` — the two transactions around a submission;
* `checkRecords`, `checkSendStatus` — the reads of `check_send_status`, and its
  way to the provider and back;
* `CreatesEmail`, `EditsEmail`, `ReviewsEmail`, `ClaimsEmail`, `MovesEmail` —
  what the commands did to the two tables.

Every mutation is guarded by the currentness of the Decision; the outcome of a
submission is recorded under its correlation id.
-/
import SupplyResponse.Persistence.SupplierEmails
import SupplyResponse.Services.Currentness
import SupplyResponse.Transact.Process

namespace SupplyResponse

open Transact Transact.Prog

variable (env : Env)

/-- The configuration of `ReviewedEmailService`. -/
structure MailConfig where
  fromAddress : String
  toAddress : String
  configuredActor : IdentitySnapshot
  mailSendEnabled : Bool

variable (config : MailConfig)

def emailStateError (message : String) : Raised := ⟨.emailStateError, message⟩

def emailRevisionConflict : Raised :=
  ⟨.emailRevisionConflict, "The supplier email changed. Refresh it and try again."⟩

abbrev EmailState := SupplierEmailRevision × SupplierEmailDelivery

/-! ### Checks -/

/-- The actor is the configured Alex. -/
def MailConfig.Admits (actor : IdentitySnapshot) : Prop :=
  let expected := config.configuredActor
  actor.personaId = expected.personaId ∧ expected.personaId = "RL-PERSONA-ALEX" ∧
    actor.sourceId = expected.sourceId ∧ expected.sourceId = "RL-ENTRA-ALEX" ∧
    actor.identitySource = expected.identitySource ∧ expected.identitySource = .entra ∧
    actor.effectiveRoles = expected.effectiveRoles ∧ expected.effectiveRoles = alexRoles ∧
    (expected.tenantId.isSome → actor.tenantId = expected.tenantId) ∧
    (expected.objectId.isSome → actor.objectId = expected.objectId)

instance (actor : IdentitySnapshot) : Decidable (config.Admits actor) :=
  inferInstanceAs (Decidable (_ ∧ _))

/-- `_require_actor`. -/
def requireEmailActor (actor : IdentitySnapshot) : Sql Unit :=
  require (config.Admits actor)
    ⟨.emailAuthorizationError, "Only the configured Alex can review email"⟩

/-- `_require_current_projection`. -/
def requireCurrentProjection (decision : Decision) : Sql Unit := do
  let projection ← getProjection env decision.caseId
  require (projection.currentDecisionId = some decision.decisionId ∧
      projection.currentAnalysisId = some decision.analysisId ∧
      projection.currentAnalysisHash = some decision.analysisMaterialHash)
    (executionStale "Execution Decision is no longer current")

/-- `_draft_action`. -/
def draftAction (decisionId : String) : Sql ExecutionAction := do
  let actions ← listActions decisionId
  let unavailable :=
    emailStateError "The supplier email is not available until action planning completes."
  let drafts := actions.filter fun a => a.kind = .prepareAlphaRecoveryDraft
  let action ← orRaise unavailable drafts.head?
  require (drafts.length = 1 ∧ action.draftArtifactId.isSome) unavailable
  let mismatch := emailStateError "The supplier email does not match its planned action."
  let artifact ← mapError (getDraftArtifact action.actionId)
    (fun cls => cls = .recordNotFound ∨ cls = .persistenceIntegrityError) mismatch
  require (action.decisionId = decisionId ∧ artifact.actionId = action.actionId ∧
      artifact.decisionId = decisionId ∧ some artifact.artifactId = action.draftArtifactId)
    mismatch
  pure action

/-- The checks shared by all commands: the guard, the projection, the action. -/
def guardedEmail (decisionId : String) : Sql (Decision × ExecutionAction) := do
  let decision ← guardExecutionCurrent env decisionId
  requireCurrentProjection env decision
  let action ← draftAction decisionId
  pure (decision, action)

/-! ### Content -/

/-- `_initial_content`. -/
def initialContent (decision : Decision) (actions : List ExecutionAction) :
    Sql (String × String) := do
  let option ← orRaise
    (emailStateError "The supplier email requires a current approved response.")
    (decision.selectedOption.filter fun o => decision.selectedOptionId = some o.optionId)
  let coordination := (actions.filter fun a =>
    a.kind ≠ .prepareAlphaRecoveryDraft ∧ a.kind ≠ .updateDisruptionStatus).filterMap
      ExecutionAction.purpose
  require (coordination ≠ [])
    (emailStateError "The supplier email requires a planned approved response.")
  let text := "\n".intercalate (coordination.map fun purpose => "- " ++ purpose)
  pure ("RL-001 supplier recovery request",
    "Fictional demo — this message is not a purchase order or financial commitment.\n\n" ++
      s!"Case reference: {decision.caseId}\n" ++
      s!"Approved demo response: {option.name}.\n\n" ++
      s!"Planned demo coordination:\n{text}\n\n" ++
      "Please confirm the current recovery timing and any remaining constraints affecting supply.")

/-- `deterministic_email_id`. -/
def deterministicEmailId (decisionId : String) : String :=
  "RL-EMAIL-" ++ env.uuid5 (decisionId ++ ":supplier-email")

/-- `SupplierEmailRevision(…)`: an unreviewed revision, with its addresses in
lower case. -/
def SupplierEmailRevision.validate? (emailId decisionId actionId : String) (revision : Nat)
    (subject body fromAddress toAddress : String) (editedBy : IdentitySnapshot)
    (editedAt : Instant) : Option SupplierEmailRevision :=
  let sender := fromAddress.map Char.toLower
  let recipient := toAddress.map Char.toLower
  if h : _ then
    some ⟨emailId, decisionId, actionId, revision, subject, body, sender, recipient, editedBy,
      editedAt, none, none, h⟩
  else none

/-- `SupplierEmailDelivery(…)` of a new email. -/
def SupplierEmailDelivery.validate? (emailId decisionId : String) (now : Instant) :
    Option SupplierEmailDelivery :=
  if h : Nonblank emailId ∧ Nonblank decisionId then
    some ⟨emailId, decisionId, none, .draft, none, none, none, now, none,
      h.1, h.2, by simp⟩
  else none

/-! ### Commands -/

/-- The first revision of the email of a Decision. -/
def createEmail (decisionId : String) (now : Instant) : Sql (Exit EmailState) := do
  let (decision, action) ← guardedEmail env decisionId
  let actions ← listActions decisionId
  let (subject, body) ← initialContent decision actions
  let emailId := deterministicEmailId env decisionId
  let revision ← orRaise (validationError "SupplierEmailRevision")
    (SupplierEmailRevision.validate? emailId decisionId action.actionId 1 subject body
      config.fromAddress config.toAddress config.configuredActor now)
  let delivery ← orRaise (validationError "SupplierEmailDelivery")
    (SupplierEmailDelivery.validate? emailId decisionId now)
  insertInitial revision delivery
  pure (.commit (revision, delivery))

/-- `get`. -/
def getEmail (decisionId : String) (now : Instant) : Sql (Exit EmailState) := do
  let current ← getCurrent decisionId
  match current with
  | some current => pure (.rollback current)
  | none => createEmail env config decisionId now

/-- `save`. -/
def saveEmail (decisionId : String) (revision : Nat) (subject body : String)
    (actor : IdentitySnapshot) (now : Instant) : Sql (Exit EmailState) := do
  requireEmailActor config actor
  let _ ← guardedEmail env decisionId
  let current ← getCurrent decisionId
  let (previous, delivery) ← orRaise
    (emailStateError "Open the supplier email before editing it.") current
  let changed ← orRaise (validationError "SupplierEmailRevision")
    (SupplierEmailRevision.validate? previous.emailId previous.decisionId previous.actionId
      (revision + 1) subject body config.fromAddress config.toAddress actor now)
  let appended ← appendRevision changed revision
  require appended emailRevisionConflict
  pure (.commit (changed, delivery.redrafted changed.editedAt))

/-- The revision with its review. -/
def SupplierEmailRevision.review (revision : SupplierEmailRevision) (actor : IdentitySnapshot)
    (now : Instant) : SupplierEmailRevision :=
  { revision with
    reviewedBy := some actor
    reviewedAt := some now
    valid := ⟨revision.valid.1, revision.valid.2.1, revision.valid.2.2.1, revision.valid.2.2.2.1,
      revision.valid.2.2.2.2.1, revision.valid.2.2.2.2.2.1, revision.valid.2.2.2.2.2.2.1,
      revision.valid.2.2.2.2.2.2.2.1, by simp⟩ }

/-- The delivery with its reviewed revision. -/
def SupplierEmailDelivery.review (delivery : SupplierEmailDelivery)
    (revision : SupplierEmailRevision) (now : Instant) : SupplierEmailDelivery :=
  { delivery with
    reviewedRevision := some revision.revision
    statusUpdatedAt := now
    valid := ⟨delivery.valid.1, delivery.valid.2.1, by
      rintro n ⟨⟩
      exact revision.valid.1⟩ }

/-- The part of `review` behind the check of the revision number. -/
def reviewCurrent (previous : SupplierEmailRevision) (delivery : SupplierEmailDelivery)
    (actor : IdentitySnapshot) (now : Instant) : Sql (Exit EmailState) :=
  if previous.reviewedBy.isSome then do
    require (previous.reviewedBy = some actor ∧
        delivery.reviewedRevision = some previous.revision)
      (emailStateError "This supplier email revision is already reviewed.")
    pure (.rollback (previous, delivery))
  else do
    let reviewed := previous.review actor now
    let reviewedDelivery := delivery.review previous now
    let marked ← markReviewed reviewed reviewedDelivery previous.revision
    require marked emailRevisionConflict
    pure (.commit (reviewed, reviewedDelivery))

/-- `review`. -/
def reviewEmail (decisionId : String) (revision : Nat) (actor : IdentitySnapshot)
    (now : Instant) : Sql (Exit EmailState) := do
  requireEmailActor config actor
  let _ ← guardedEmail env decisionId
  let current ← getCurrent decisionId
  let (previous, delivery) ← orRaise
    (emailStateError "Open the supplier email before reviewing it.") current
  require (previous.revision = revision) emailRevisionConflict
  reviewCurrent previous delivery actor now

/-! ### Sending -/

/-- `_send_records`. -/
def sendRecords (decisionId : String) (revision : Nat) (actor : IdentitySnapshot) :
    Sql EmailState := do
  requireEmailActor config actor
  let _ ← guardedEmail env decisionId
  let current ← getCurrent decisionId
  let (content, delivery) ← orRaise
    (emailStateError "Open the supplier email before sending it.") current
  require (content.revision = revision) emailRevisionConflict
  require (content.reviewedBy.isSome ∧ content.reviewedAt.isSome ∧
      delivery.reviewedRevision = some revision)
    (emailStateError "Review the current supplier email before sending it.")
  pure (content, delivery)

/-- The delivery of a submission under a fresh correlation id. -/
def SupplierEmailDelivery.submitting (delivery : SupplierEmailDelivery) (correlationId : String)
    (now : Instant) : SupplierEmailDelivery :=
  { delivery with
    sendStatus := .submitting
    providerMessageId := none
    internetMessageId := none
    correlationId := some correlationId
    statusUpdatedAt := now
    failureCode := none }

/-- How the first transaction of `send` ends: with the claimed content that is
handed to the provider next, or without a claim. -/
inductive SendClaim
  | claimed (content : SupplierEmailRevision)
  | current (state : EmailState)
  | lost

/-- The first transaction of `send`. -/
def claimEmail (decisionId : String) (revision : Nat) (actor : IdentitySnapshot)
    (correlationId : String) (now : Instant) : Sql (Exit SendClaim) := do
  require config.mailSendEnabled
    ⟨.emailSendDisabled, "Supplier email sending is not enabled."⟩
  let (content, delivery) ← sendRecords env config decisionId revision actor
  if delivery.sendStatus = .draft ∨ delivery.sendStatus = .failed then do
    let claimed ← claimSend (delivery.submitting correlationId now) revision
    pure (if claimed then .commit (.claimed content) else .rollback .lost)
  else pure (.rollback (.current (content, delivery)))

/-- The delivery after the outcome of a submission. -/
def SupplierEmailDelivery.outcome (delivery : SupplierEmailDelivery)
    (status : SupplierEmailSendStatus) (providerMessageId internetMessageId failureCode :
      Option String) (now : Instant) : SupplierEmailDelivery :=
  { delivery with
    sendStatus := status
    providerMessageId := providerMessageId.or delivery.providerMessageId
    internetMessageId := internetMessageId.or delivery.internetMessageId
    statusUpdatedAt := now
    failureCode := failureCode }

/-- `_transition`. -/
def transition (decisionId correlationId : String)
    (expectedStatuses : List SupplierEmailSendStatus) (status : SupplierEmailSendStatus)
    (providerMessageId internetMessageId failureCode : Option String) (now : Instant) :
    Sql (Exit EmailState) := do
  let current ← getCurrent decisionId
  let (revision, delivery) ← orRaise
    (emailStateError "The supplier email is not available.") current
  if delivery.correlationId = some correlationId then do
    let changed := delivery.outcome status providerMessageId internetMessageId failureCode now
    let updated ← updateDeliveryState changed correlationId expectedStatuses
    pure (if updated then .commit (revision, changed) else .rollback (revision, delivery))
  else pure (.rollback (revision, delivery))

/-- The outcome of `send_message`: it returned, or raised one of the two
errors with its code. -/
inductive SendOutcome
  | accepted
  | uncertain (code : String)
  | failed (code : String)

/-- The second transaction of `send`. -/
def recordOutcome (decisionId correlationId : String) (now : Instant) :
    SendOutcome → Sql (Exit EmailState)
  | .accepted => transition decisionId correlationId [.submitting] .accepted none none none now
  | .uncertain code =>
    transition decisionId correlationId [.submitting] .uncertain none none (some code) now
  | .failed code =>
    transition decisionId correlationId [.submitting] .failed none none (some code) now

/-- The first transaction of `check_send_status`, which is never committed. -/
def checkRecords (decisionId : String) (actor : IdentitySnapshot) : Sql (Exit EmailState) := do
  require config.mailSendEnabled
    ⟨.emailSendDisabled, "Supplier email sending is not enabled."⟩
  let current ← getCurrent decisionId
  let (revision, delivery) ← orRaise
    (emailStateError "The supplier email is not available.") current
  let _ ← sendRecords env config decisionId revision.revision actor
  require (delivery.sendStatus = .sentConfirmed ∨
      delivery.sendStatus ∈ [.submitting, .accepted, .uncertain] ∧
        delivery.providerMessageId.isSome ∧ delivery.correlationId.isSome)
    (emailStateError "Send status is not available to check.")
  pure (.rollback (revision, delivery))

/-- What `check_send_status` learns from the provider. -/
inductive ProviderCheck
  | mismatch
  | sent

/-- The second transaction of `check_send_status`. -/
def recordCheck (decisionId correlationId : String) (now : Instant) :
    ProviderCheck → Sql (Exit EmailState)
  | .mismatch =>
    transition decisionId correlationId [.submitting, .accepted, .uncertain] .uncertain none none
      (some "graph_message_mismatch") now
  | .sent =>
    transition decisionId correlationId [.submitting, .accepted, .uncertain] .sentConfirmed none
      none none now

/-- A message as the provider reports it. -/
structure ProviderMessage where
  providerMessageId : String
  internetMessageId : Option String
  senderAddress : String
  toAddresses : List String
  subject : String
  bodyContentType : String
  body : String
  sentAt : Option Instant

/-- `_provider_matches`. -/
def ProviderMessage.Matches (provider : ProviderMessage) (revision : SupplierEmailRevision)
    (delivery : SupplierEmailDelivery) : Prop :=
  some provider.providerMessageId = delivery.providerMessageId ∧
    (delivery.internetMessageId = none ∨
      provider.internetMessageId = delivery.internetMessageId) ∧
    provider.senderAddress = revision.fromAddress ∧
    provider.toAddresses = [revision.toAddress] ∧ provider.subject = revision.subject ∧
    provider.bodyContentType = "text" ∧ provider.body = revision.body

instance (provider : ProviderMessage) (revision : SupplierEmailRevision)
    (delivery : SupplierEmailDelivery) : Decidable (provider.Matches revision delivery) :=
  inferInstanceAs (Decidable (_ ∧ _))

/-- `_canonical`. -/
def canonicalEmail (decisionId : String) : Sql (Exit EmailState) := do
  let current ← getCurrent decisionId
  let state ← orRaise (emailStateError "The supplier email is not available.") current
  pure (.rollback state)

/-- The part of `check_send_status` behind the provider lookup, which raises
`GraphMailError` (`none`) or finds the message. -/
def concludeCheck (revision : SupplierEmailRevision) (delivery : SupplierEmailDelivery)
    (decisionId correlationId : String) (now : Instant) :
    Option ProviderMessage → Process Store Raised EmailState
  | none => Process.transaction (canonicalEmail decisionId)
  | some provider =>
    if ¬provider.Matches revision delivery then
      Process.transaction (recordCheck decisionId correlationId now .mismatch)
    else if provider.sentAt = none then Process.transaction (canonicalEmail decisionId)
    else Process.transaction (recordCheck decisionId correlationId now .sent)

/-- `check_send_status`; `lookup` is the mailbox of the provider. -/
def checkSendStatus (decisionId : String) (actor : IdentitySnapshot)
    (lookup : String → Option ProviderMessage) (now : Instant) :
    Process Store Raised EmailState := do
  let (revision, delivery) ← Process.transaction (checkRecords env config decisionId actor)
  if delivery.sendStatus = .sentConfirmed then pure (revision, delivery)
  else
    match delivery.providerMessageId, delivery.correlationId with
    | some providerId, some correlationId =>
      concludeCheck revision delivery decisionId correlationId now (lookup providerId)
    -- the records were checked for both
    | _, _ => Process.raise (emailStateError "Send status is not available to check.")

/-! ### What the commands did -/

theorem readOnly_requireCurrentProjection (decision : Decision) :
    (requireCurrentProjection env decision).ReadOnly :=
  (readOnly_getProjection env _).bind fun _ => readOnly_require _ _

theorem readOnly_draftAction (decisionId : String) : (draftAction decisionId).ReadOnly :=
  (readOnly_listActions _).bind fun _ => (readOnly_orRaise _ _).bind fun _ =>
    (readOnly_require _ _).bind fun _ =>
      (readOnly_mapError (readOnly_getDraftArtifact _) _ _).bind fun _ =>
        (readOnly_require _ _).bind fun _ => readOnly_done _

/-- The emails of the two stores are the same. -/
structure SameEmails (s s' : Store) : Prop where
  deliveries : s'.deliveries = s.deliveries
  revisions : s'.emailRevisions = s.emailRevisions

theorem SameEmails.refl (s : Store) : SameEmails s s := ⟨rfl, rfl⟩

theorem SameEmails.symm {s s' : Store} (h : SameEmails s s') : SameEmails s' s :=
  ⟨h.deliveries.symm, h.revisions.symm⟩

theorem SameEmails.trans {a b c : Store} (h : SameEmails a b) (h' : SameEmails b c) :
    SameEmails a c :=
  ⟨h'.deliveries.trans h.deliveries, h'.revisions.trans h.revisions⟩

/-- What `get_current` says depends on the emails only. -/
theorem CurrentEmail.of_same {s s' : Store} {decisionId : String}
    {revision : SupplierEmailRevision} {delivery : SupplierEmailDelivery}
    (h : CurrentEmail s' decisionId revision delivery) (hs : SameEmails s s') :
    CurrentEmail s decisionId revision delivery := by
  obtain ⟨hstored, hlatest, hagrees, hreviewed⟩ := h
  unfold deliveryOf at hstored
  unfold latestEmail at hlatest
  rw [hs.deliveries] at hstored
  rw [hs.revisions] at hlatest
  exact ⟨hstored, hlatest, hagrees, hreviewed⟩

theorem returns_guardedEmail {decisionId : String} {s s' : Store}
    {p : Decision × ExecutionAction} (h : (guardedEmail env decisionId).Returns s p s') :
    p.1.decisionId = decisionId ∧ Guarded s p.1 s' := by
  obtain ⟨decision, s₁, hguard, h⟩ := returns_bind.mp h
  obtain ⟨_, -, h⟩ := (readOnly_requireCurrentProjection env _).returns_bind.mp h
  obtain ⟨action, -, h⟩ := (readOnly_draftAction _).returns_bind.mp h
  obtain ⟨rfl, rfl⟩ := returns_done.mp h
  exact returns_guardExecutionCurrent env hguard

/-- The checks of a command leave the emails alone. -/
theorem sameEmails_guardedEmail {decisionId : String} {s s' : Store}
    {p : Decision × ExecutionAction} (h : (guardedEmail env decisionId).Returns s p s') :
    SameEmails s s' := by
  obtain ⟨t, rfl⟩ := (returns_guardedEmail env h).2.effect
  exact ⟨rfl, rfl⟩

theorem validate?_eq_some {emailId decisionId actionId subject body fromAddress toAddress : String}
    {revision : Nat} {editedBy : IdentitySnapshot} {editedAt : Instant}
    {r : SupplierEmailRevision}
    (h : SupplierEmailRevision.validate? emailId decisionId actionId revision subject body
      fromAddress toAddress editedBy editedAt = some r) :
    r.emailId = emailId ∧ r.decisionId = decisionId ∧ r.revision = revision ∧
      r.reviewedBy = none ∧ r.reviewedAt = none ∧ r.editedAt = editedAt := by
  simp only [SupplierEmailRevision.validate?, Option.dite_none_right_eq_some,
    Option.some.injEq] at h
  obtain ⟨_, rfl⟩ := h
  exact ⟨rfl, rfl, rfl, rfl, rfl, rfl⟩

/-- The first revision of the email of a Decision was stored. -/
structure CreatesEmail (s : Store) (decisionId : String) (revision : SupplierEmailRevision)
    (delivery : SupplierEmailDelivery) (s' : Store) : Prop where
  absent : deliveryOf s decisionId = none
  first : revision.decisionId = decisionId ∧ revision.revision = 1 ∧ revision.reviewedBy = none
  draft : delivery.emailId = revision.emailId ∧ delivery.decisionId = decisionId ∧
    delivery.reviewedRevision = none ∧ delivery.sendStatus = .draft ∧
    delivery.providerMessageId = none ∧ delivery.internetMessageId = none ∧
    delivery.correlationId = none
  free : s.deliveries.Free delivery ∧ s.emailRevisions.Free revision
  deliveries : s'.deliveries = s.deliveries.add delivery
  revisions : s'.emailRevisions = s.emailRevisions.add revision

theorem commits_getEmail {decisionId : String} {now : Instant} {s s' : Store} {state : EmailState}
    (h : (getEmail env config decisionId now).Commits s state s') :
    CreatesEmail s decisionId state.1 state.2 s' := by
  obtain ⟨current, hcurrent, hrest⟩ := (readOnly_getCurrent _).returns_bind.mp h
  rcases returns_getCurrent hcurrent with ⟨rfl, habsent⟩ | ⟨revision, delivery, rfl, -⟩
  swap
  · cases (returns_done.mp hrest).1
  obtain ⟨⟨decision, action⟩, s₁, hguard, hrest⟩ := returns_bind.mp hrest
  have hsame := sameEmails_guardedEmail env hguard
  obtain ⟨actions, -, hrest⟩ := (readOnly_listActions _).returns_bind.mp hrest
  have hcontent : (initialContent decision actions).ReadOnly :=
    (readOnly_orRaise _ _).bind fun _ => (readOnly_require _ _).bind fun _ => readOnly_done _
  obtain ⟨⟨subject, body⟩, -, hrest⟩ := hcontent.returns_bind.mp hrest
  obtain ⟨revision, hrevision, hrest⟩ := returns_orRaise_bind.mp hrest
  obtain ⟨delivery, hdelivery, hrest⟩ := returns_orRaise_bind.mp hrest
  obtain ⟨_, s₂, hinsert, hrest⟩ := returns_bind.mp hrest
  obtain ⟨heq, rfl⟩ := returns_done.mp hrest
  obtain rfl := Exit.commit.inj heq
  have hins := returns_insertInitial hinsert
  obtain ⟨-, hdecision, -⟩ := validate?_eq_some hrevision
  obtain ⟨hemail, howner, hnone, hstatus⟩ := hins.draft
  obtain ⟨hfree, hfree'⟩ := hins.free
  have hids : delivery.providerMessageId = none ∧ delivery.internetMessageId = none ∧
      delivery.correlationId = none := by
    simp only [SupplierEmailDelivery.validate?, Option.dite_none_right_eq_some,
      Option.some.injEq] at hdelivery
    obtain ⟨_, rfl⟩ := hdelivery
    exact ⟨rfl, rfl, rfl⟩
  have heffect := hins.effect
  refine ⟨habsent, ⟨hdecision, hins.first⟩,
    ⟨hemail, howner.trans hdecision, hnone, hstatus, hids⟩,
    ⟨hsame.deliveries ▸ hfree, hsame.revisions ▸ hfree'⟩, ?_, ?_⟩
  · rw [heffect, ← hsame.deliveries]
  · rw [heffect, ← hsame.revisions]

/-- A new revision of the email of a Decision was stored. -/
structure EditsEmail (s : Store) (decisionId : String) (changed : SupplierEmailRevision)
    (s' : Store) : Prop where
  current : ∃ previous delivery, CurrentEmail s decisionId previous delivery ∧
    delivery.Editable ∧ changed.emailId = previous.emailId ∧
    changed.revision = previous.revision + 1 ∧
    s'.deliveries = s.deliveries.modify (.delivery delivery.emailId)
      (delivery.redrafted changed.editedAt).rewritten (fun _ _ => rfl)
  unreviewed : changed.decisionId = decisionId ∧ changed.reviewedBy = none
  free : s.emailRevisions.Free changed
  revisions : s'.emailRevisions = s.emailRevisions.add changed

theorem commits_saveEmail {decisionId subject body : String} {revision : Nat}
    {actor : IdentitySnapshot} {now : Instant} {s s' : Store} {state : EmailState}
    (h : (saveEmail env config decisionId revision subject body actor now).Commits s state s') :
    EditsEmail s decisionId state.1 s' := by
  obtain ⟨-, hrest⟩ := returns_require_bind.mp h
  obtain ⟨p, s₁, hguard, hrest⟩ := returns_bind.mp hrest
  have hsame := sameEmails_guardedEmail env hguard
  obtain ⟨current, hcurrent, hrest⟩ := (readOnly_getCurrent _).returns_bind.mp hrest
  obtain ⟨⟨previous, delivery⟩, hsome, hrest⟩ := returns_orRaise_bind.mp hrest
  obtain ⟨changed, hchanged, hrest⟩ := returns_orRaise_bind.mp hrest
  obtain ⟨appended, s₂, happend, hrest⟩ := returns_bind.mp hrest
  obtain ⟨htrue, hdone⟩ := returns_require_bind.mp hrest
  rw [htrue] at happend
  obtain ⟨heq, rfl⟩ := returns_done.mp hdone
  obtain rfl := Exit.commit.inj heq
  rcases returns_getCurrent hcurrent with ⟨hnone, -⟩ | ⟨_, _, hsome', hstored⟩
  · cases hnone.symm.trans hsome
  obtain ⟨rfl, rfl⟩ := Prod.mk.inj (Option.some.inj (hsome.symm.trans hsome'))
  obtain ⟨-, hdecision, -, -, -, -⟩ := validate?_eq_some hchanged
  have hid : changed.decisionId = decisionId := by
    have hmem := (Table.get?_eq_some_iff.mp hstored.stored).2
    have hkey : delivery.decisionId = decisionId := by
      simp only [keys_supplierEmailDelivery, List.mem_cons, Key.deliveryDecision.injEq, reduceCtorEq,
        List.not_mem_nil, or_false, false_or] at hmem
      exact hmem.symm
    exact hdecision.trans (hstored.agrees.2.1.trans hkey)
  obtain ⟨previous', delivery', hstored', hrevision, heditable, hemail, hnumber, hunreviewed,
    hfree, heffect⟩ := (returns_appendRevision happend).previous
  refine ⟨⟨previous', delivery', hid ▸ hstored'.of_same hsame, heditable, hemail,
    by rw [hnumber, hrevision], ?_⟩, ⟨hid, hunreviewed⟩, hsame.revisions ▸ hfree, ?_⟩
  · rw [heffect, ← hsame.deliveries]
  · rw [heffect, ← hsame.revisions]

theorem CurrentEmail.decisionId {s : Store} {decisionId : String}
    {revision : SupplierEmailRevision} {delivery : SupplierEmailDelivery}
    (h : CurrentEmail s decisionId revision delivery) : delivery.decisionId = decisionId := by
  have hmem := (Table.get?_eq_some_iff.mp h.stored).2
  simp only [keys_supplierEmailDelivery, List.mem_cons, Key.deliveryDecision.injEq, reduceCtorEq,
    List.not_mem_nil, or_false, false_or] at hmem
  exact hmem.symm

/-- The current delivery is the stored one of its email. -/
theorem CurrentEmail.row {s : Store} {decisionId : String} {revision : SupplierEmailRevision}
    {delivery : SupplierEmailDelivery} (h : CurrentEmail s decisionId revision delivery) :
    s.deliveries.get? (.delivery delivery.emailId) = some delivery :=
  Table.get?_of_mem (Table.mem_of_get? h.stored) (List.mem_cons_self ..)

/-- A Decision has one current email. -/
theorem CurrentEmail.unique {s : Store} {decisionId : String}
    {revision revision' : SupplierEmailRevision} {delivery delivery' : SupplierEmailDelivery}
    (h : CurrentEmail s decisionId revision delivery)
    (h' : CurrentEmail s decisionId revision' delivery') :
    revision = revision' ∧ delivery = delivery' := by
  obtain rfl := Option.some.inj (h.stored.symm.trans h'.stored)
  exact ⟨Option.some.inj (h.latest.symm.trans h'.latest), rfl⟩

/-- The current revision of an email was reviewed. -/
structure ReviewsEmail (s : Store) (decisionId : String) (previous : SupplierEmailRevision)
    (delivery : SupplierEmailDelivery) (actor : IdentitySnapshot) (now : Instant) (s' : Store) :
    Prop where
  current : CurrentEmail s decisionId previous delivery
  unreviewed : previous.reviewedAt = none
  deliveries : s'.deliveries = s.deliveries.modify (.delivery delivery.emailId)
    (delivery.review previous now).rewritten (fun _ _ => rfl)
  revisions : s'.emailRevisions = s.emailRevisions.modify
    (.emailRevision previous.emailId previous.revision) (previous.review actor now).reviewedAs
    (fun _ _ => rfl)

theorem commits_reviewEmail {decisionId : String} {revision : Nat} {actor : IdentitySnapshot}
    {now : Instant} {s s' : Store} {state : EmailState}
    (h : (reviewEmail env config decisionId revision actor now).Commits s state s') :
    ∃ previous delivery, previous.revision = revision ∧
      ReviewsEmail s decisionId previous delivery actor now s' := by
  obtain ⟨-, hrest⟩ := returns_require_bind.mp h
  obtain ⟨p, s₁, hguard, hrest⟩ := returns_bind.mp hrest
  have hsame := sameEmails_guardedEmail env hguard
  obtain ⟨current, hcurrent, hrest⟩ := (readOnly_getCurrent _).returns_bind.mp hrest
  obtain ⟨⟨previous, delivery⟩, hsome, hrest⟩ := returns_orRaise_bind.mp hrest
  obtain ⟨hrevision, hrest⟩ := returns_require_bind.mp hrest
  rcases returns_getCurrent hcurrent with ⟨hnone, -⟩ | ⟨_, _, hsome', hstored⟩
  · cases hnone.symm.trans hsome
  obtain ⟨rfl, rfl⟩ := Prod.mk.inj (Option.some.inj (hsome.symm.trans hsome'))
  obtain ⟨-, hrest⟩ | ⟨hunreviewed, hrest⟩ := returns_ite.mp hrest
  · obtain ⟨-, hrest⟩ := returns_require_bind.mp hrest
    cases (returns_done.mp hrest).1
  obtain ⟨marked, s₂, hmark, hrest⟩ := returns_bind.mp hrest
  obtain ⟨htrue, hdone⟩ := returns_require_bind.mp hrest
  rw [htrue] at hmark
  obtain ⟨-, rfl⟩ := returns_done.mp hdone
  have hdecision : (previous.review actor now).decisionId = decisionId :=
    hstored.agrees.2.1.trans hstored.decisionId
  obtain ⟨previous', delivery', hstored', -, hmarks⟩ := (returns_markReviewed hmark).previous
  obtain ⟨rfl, rfl⟩ := hstored.unique (hdecision ▸ hstored')
  rcases hmarks with ⟨heq, -, -⟩ | ⟨hopen, -, -, -, heffect⟩
  · -- the content had no review yet
    refine absurd ?_ hunreviewed
    rw [← congrArg SupplierEmailRevision.reviewedBy heq]
    rfl
  · refine ⟨previous, delivery, hrevision, hstored.of_same hsame, hopen, ?_, ?_⟩
    · rw [heffect, ← hsame.deliveries]
      rfl
    · rw [heffect, ← hsame.revisions]
      rfl

/-- The records of a submission are the current email, which is reviewed. -/
theorem returns_sendRecords {decisionId : String} {revision : Nat} {actor : IdentitySnapshot}
    {s s' : Store} {state : EmailState}
    (h : (sendRecords env config decisionId revision actor).Returns s state s') :
    SameEmails s s' ∧ CurrentEmail s decisionId state.1 state.2 ∧ state.1.revision = revision ∧
      state.1.reviewedBy.isSome ∧ state.2.reviewedRevision = some revision := by
  obtain ⟨-, hrest⟩ := returns_require_bind.mp h
  obtain ⟨p, s₁, hguard, hrest⟩ := returns_bind.mp hrest
  have hsame := sameEmails_guardedEmail env hguard
  obtain ⟨current, hcurrent, hrest⟩ := (readOnly_getCurrent _).returns_bind.mp hrest
  obtain ⟨⟨content, delivery⟩, hsome, hrest⟩ := returns_orRaise_bind.mp hrest
  obtain ⟨hrevision, hrest⟩ := returns_require_bind.mp hrest
  obtain ⟨hreviewed, hdone⟩ := returns_require_bind.mp hrest
  obtain ⟨rfl, rfl⟩ := returns_done.mp hdone
  rcases returns_getCurrent hcurrent with ⟨hnone, -⟩ | ⟨_, _, hsome', hstored⟩
  · cases hnone.symm.trans hsome
  obtain ⟨rfl, rfl⟩ := Prod.mk.inj (Option.some.inj (hsome.symm.trans hsome'))
  exact ⟨hsame, hstored.of_same hsame, hrevision, hreviewed.1, hreviewed.2.2⟩

/-- The reviewed content of an email was claimed for a submission. -/
structure ClaimsEmail (s : Store) (decisionId : String) (content : SupplierEmailRevision)
    (delivery : SupplierEmailDelivery) (correlationId : String) (now : Instant) (s' : Store) :
    Prop where
  current : CurrentEmail s decisionId content delivery
  reviewed : content.reviewedBy.isSome ∧ delivery.reviewedRevision = some content.revision
  editable : delivery.Editable
  deliveries : s'.deliveries = s.deliveries.modify (.delivery delivery.emailId)
    (delivery.submitting correlationId now).rewritten (fun _ _ => rfl)
  revisions : s'.emailRevisions = s.emailRevisions

theorem commits_claimEmail {decisionId correlationId : String} {revision : Nat}
    {actor : IdentitySnapshot} {now : Instant} {s s' : Store} {claim : SendClaim}
    (h : (claimEmail env config decisionId revision actor correlationId now).Commits s claim s') :
    ∃ content delivery, claim = .claimed content ∧ content.revision = revision ∧
      ClaimsEmail s decisionId content delivery correlationId now s' := by
  obtain ⟨-, hrest⟩ := returns_require_bind.mp h
  obtain ⟨⟨content, delivery⟩, s₁, hrecords, hrest⟩ := returns_bind.mp hrest
  obtain ⟨hsame, hstored, hrevision, hreviewed, -⟩ := returns_sendRecords env config hrecords
  obtain ⟨-, hrest⟩ | ⟨-, hrest⟩ := returns_ite.mp hrest
  swap
  · cases (returns_done.mp hrest).1
  obtain ⟨claimed, s₃, hclaim, hrest⟩ := returns_bind.mp hrest
  cases claimed with
  | false => cases (returns_done.mp hrest).1
  | true =>
    obtain ⟨heq, rfl⟩ := returns_done.mp hrest
    have hrewrite := returns_claimSend hclaim
    obtain ⟨row, hrow, hsendable⟩ := hrewrite.row
    obtain rfl := Option.some.inj ((hstored.of_same hsame.symm).row.symm.trans hrow)
    have heffect := hrewrite.effect
    refine ⟨content, delivery, Exit.commit.inj heq, hrevision, hstored,
      ⟨hreviewed, hsendable.2.1.trans (by rw [hrevision])⟩, hsendable.2.2, ?_, ?_⟩
    · rw [heffect, ← hsame.deliveries]
      rfl
    · rw [heffect, ← hsame.revisions]

/-- The outcome of the submission with the correlation id was recorded. -/
structure MovesEmail (s : Store) (decisionId correlationId : String)
    (statuses : List SupplierEmailSendStatus) (status : SupplierEmailSendStatus)
    (failureCode : Option String) (now : Instant) (s' : Store) : Prop where
  current : ∃ revision delivery, CurrentEmail s decisionId revision delivery ∧
    delivery.correlationId = some correlationId ∧ delivery.sendStatus ∈ statuses ∧
    s'.deliveries = s.deliveries.modify (.delivery delivery.emailId)
      (delivery.outcome status none none failureCode now).rewritten (fun _ _ => rfl)
  revisions : s'.emailRevisions = s.emailRevisions

theorem commits_transition {decisionId correlationId : String}
    {statuses : List SupplierEmailSendStatus} {status : SupplierEmailSendStatus}
    {failureCode : Option String} {now : Instant} {s s' : Store} {state : EmailState}
    (h : (transition decisionId correlationId statuses status none none failureCode
      now).Commits s state s') :
    MovesEmail s decisionId correlationId statuses status failureCode now s' := by
  obtain ⟨current, hcurrent, hrest⟩ := (readOnly_getCurrent _).returns_bind.mp h
  obtain ⟨⟨revision, delivery⟩, hsome, hrest⟩ := returns_orRaise_bind.mp hrest
  rcases returns_getCurrent hcurrent with ⟨hnone, -⟩ | ⟨_, _, hsome', hstored⟩
  · cases hnone.symm.trans hsome
  obtain ⟨rfl, rfl⟩ := Prod.mk.inj (Option.some.inj (hsome.symm.trans hsome'))
  obtain ⟨hcorrelation, hrest⟩ | ⟨-, hrest⟩ := returns_ite.mp hrest
  swap
  · cases (returns_done.mp hrest).1
  obtain ⟨updated, s₁, hupdate, hrest⟩ := returns_bind.mp hrest
  cases updated with
  | false => cases (returns_done.mp hrest).1
  | true =>
    obtain ⟨-, rfl⟩ := returns_done.mp hrest
    have hrewrite := returns_updateDeliveryState hupdate
    obtain ⟨row, hrow, hawaits⟩ := hrewrite.row
    obtain rfl := Option.some.inj (hstored.row.symm.trans hrow)
    have heffect := hrewrite.effect
    exact ⟨⟨revision, delivery, hstored, hcorrelation, hawaits.2.2, by rw [heffect]; rfl⟩,
      by rw [heffect]⟩

end SupplyResponse
