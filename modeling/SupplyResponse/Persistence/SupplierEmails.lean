/-
Supplier emails (`SqlAlchemySupplierEmailRepository`).

* `getCurrent` — the delivery of a Decision with its latest revision;
* `appendRevision`, `markReviewed` — the writers that first lock the delivery;
* `claimSend`, `updateDeliveryState` — the conditional updates around a send.
-/
import SupplyResponse.Persistence.Playbacks

namespace SupplyResponse

open Transact Transact.Prog
open Keyed (keys)

/-! ### Reads -/

/-- The delivery of a Decision. -/
def deliveryOf (s : Store) (decisionId : String) : Option SupplierEmailDelivery :=
  s.deliveries.get? (.deliveryDecision decisionId)

/-- `ORDER BY revision DESC LIMIT 1` for an email. -/
def latestEmail (s : Store) (emailId decisionId : String) : Option SupplierEmailRevision :=
  s.emailRevisions.latest (fun r => r.emailId = emailId ∧ r.decisionId = decisionId)
    SupplierEmailRevision.revision

/-- The delivery agrees with the latest revision. -/
def SupplierEmailDelivery.Matches (delivery : SupplierEmailDelivery)
    (revision : SupplierEmailRevision) : Prop :=
  revision.emailId = delivery.emailId ∧ revision.decisionId = delivery.decisionId ∧
    ∀ n ∈ delivery.reviewedRevision, n ≤ revision.revision

instance (delivery : SupplierEmailDelivery) (revision : SupplierEmailRevision) :
    Decidable (delivery.Matches revision) :=
  inferInstanceAs (Decidable (_ ∧ _))

/-- The content of a stored delivery. -/
def currentOf (decisionId : String) :
    Option SupplierEmailDelivery → Sql (Option (SupplierEmailRevision × SupplierEmailDelivery))
  | none => pure none
  | some delivery => do
    let row ← select fun s => latestEmail s delivery.emailId decisionId
    let revision ← orRaise
      (integrityError "supplier email delivery has no content revision") row
    require (delivery.Matches revision)
      (integrityError "supplier email delivery conflicts with its revisions")
    require (delivery.reviewedRevision = some revision.revision → revision.reviewedBy.isSome)
      (integrityError "effective supplier email review is incomplete")
    pure (some (revision, delivery))

/-- `get_current`. -/
def getCurrent (decisionId : String) :
    Sql (Option (SupplierEmailRevision × SupplierEmailDelivery)) := do
  let delivery ← select fun s => deliveryOf s decisionId
  currentOf decisionId delivery

/-- `_require_action_binding`. -/
def requireActionBinding (revision : SupplierEmailRevision) : Sql Unit := do
  let action ← getAction revision.actionId
  require (action.decisionId = revision.decisionId ∧ action.kind = .prepareAlphaRecoveryDraft ∧
      action.draftArtifactId.isSome)
    (integrityError "supplier email must belong to its Decision's draft action")
  let artifact ← getDraftArtifact action.actionId
  require (artifact.decisionId = revision.decisionId)
    (integrityError "supplier email draft artifact conflicts with its Decision")

/-! ### Writes -/

/-- `_insert_revision`. -/
def insertRevision (revision : SupplierEmailRevision) : Sql Unit :=
  insertInto Store.emailRevisions (fun s t => { s with emailRevisions := t }) revision

/-- `insert_initial`. -/
def insertInitial (revision : SupplierEmailRevision) (delivery : SupplierEmailDelivery) :
    Sql Unit := do
  require (revision.revision = 1 ∧ revision.reviewedBy = none)
    ⟨.valueError, "initial supplier email must be unreviewed revision 1"⟩
  require (delivery.emailId = revision.emailId ∧ delivery.decisionId = revision.decisionId ∧
      delivery.reviewedRevision = none ∧ delivery.sendStatus = .draft)
    (integrityError "initial supplier email delivery conflicts with its revision")
  let current ← getCurrent revision.decisionId
  require (current.isNone)
    ⟨.immutableRecordConflict, "supplier email already exists for this Decision"⟩
  requireActionBinding revision
  insertInto Store.deliveries (fun s t => { s with deliveries := t }) delivery
  insertRevision revision

/-- `_claim_delivery_for_write`: an `UPDATE` that changes nothing and locks the
delivery of the Decision. -/
def claimDeliveryForWrite (decisionId : String) : Sql Bool :=
  updateRow Store.deliveries (fun s t => { s with deliveries := t })
    (.deliveryDecision decisionId) (fun _ => True) id (fun _ _ => rfl)

/-- A delivery with the mutable columns of another one. -/
@[reducible] def SupplierEmailDelivery.rewritten (delivery row : SupplierEmailDelivery) :
    SupplierEmailDelivery :=
  { row with
    reviewedRevision := delivery.reviewedRevision
    sendStatus := delivery.sendStatus
    providerMessageId := delivery.providerMessageId
    internetMessageId := delivery.internetMessageId
    correlationId := delivery.correlationId
    statusUpdatedAt := delivery.statusUpdatedAt
    failureCode := delivery.failureCode
    valid := ⟨row.valid.1, row.valid.2.1, delivery.valid.2.2⟩ }

/-- `_update_delivery`. -/
def updateDelivery (delivery : SupplierEmailDelivery) : Sql Unit :=
  updateExisting Store.deliveries (fun s t => { s with deliveries := t })
    (.delivery delivery.emailId) delivery.rewritten (fun _ _ => rfl)
    ⟨.recordNotFound, s!"supplier email delivery does not exist: {delivery.emailId}"⟩

/-- No message was handed to the provider, or only one it refused. -/
def SupplierEmailDelivery.Editable (delivery : SupplierEmailDelivery) : Prop :=
  delivery.sendStatus = .draft ∨
    delivery.sendStatus = .failed ∧ delivery.providerMessageId = none ∧
      delivery.internetMessageId = none

instance : DecidablePred SupplierEmailDelivery.Editable :=
  fun _ => inferInstanceAs (Decidable (_ ∨ _))

/-- The delivery after a new revision: nothing reviewed, nothing sent. -/
def SupplierEmailDelivery.redrafted (delivery : SupplierEmailDelivery) (now : Instant) :
    SupplierEmailDelivery :=
  { delivery with
    reviewedRevision := none
    sendStatus := .draft
    statusUpdatedAt := now
    providerMessageId := none
    internetMessageId := none
    correlationId := none
    failureCode := none
    valid := ⟨delivery.valid.1, delivery.valid.2.1, by simp⟩ }

/-- A `True` insert of a revision; `False` where the number is taken. -/
def tryInsertRevision (revision : SupplierEmailRevision) : Sql Bool :=
  (do insertRevision revision; pure true : Sql Bool).tryCatch fun e =>
    if e.cls = .integrityError then pure false else .raise e

/-- The part of `append_revision` behind the check of the current revision. -/
def appendTo (revision previous : SupplierEmailRevision) (delivery : SupplierEmailDelivery)
    (expectedRevision : Nat) : Sql Bool :=
  if ¬delivery.Editable then pure false
  else do
    require (revision.emailId = previous.emailId ∧ revision.decisionId = previous.decisionId ∧
        revision.actionId = previous.actionId ∧ revision.fromAddress = previous.fromAddress ∧
        revision.toAddress = previous.toAddress ∧
        revision.revision = expectedRevision + 1 ∧ revision.reviewedBy = none)
      (integrityError "new supplier email revision changes immutable binding")
    requireActionBinding revision
    let inserted ← tryInsertRevision revision
    if inserted then do
      updateDelivery (delivery.redrafted revision.editedAt)
      pure true
    else pure false

/-- `append_revision`. -/
def appendRevision (revision : SupplierEmailRevision) (expectedRevision : Nat) : Sql Bool := do
  let claimed ← claimDeliveryForWrite revision.decisionId
  if claimed then do
    let current ← getCurrent revision.decisionId
    match current with
    | none => pure false
    | some (previous, delivery) =>
      if previous.revision = expectedRevision then
        appendTo revision previous delivery expectedRevision
      else pure false
  else pure false

/-- A revision without its review. -/
def SupplierEmailRevision.unreviewed (revision : SupplierEmailRevision) : SupplierEmailRevision :=
  { revision with
    reviewedBy := none
    reviewedAt := none
    valid := ⟨revision.valid.1, revision.valid.2.1, revision.valid.2.2.1, revision.valid.2.2.2.1,
      revision.valid.2.2.2.2.1, revision.valid.2.2.2.2.2.1, revision.valid.2.2.2.2.2.2.1,
      revision.valid.2.2.2.2.2.2.2.1, Iff.rfl⟩ }

/-- A revision with the review of another one. -/
@[reducible] def SupplierEmailRevision.reviewedAs (reviewed row : SupplierEmailRevision) :
    SupplierEmailRevision :=
  { row with
    reviewedBy := reviewed.reviewedBy
    reviewedAt := reviewed.reviewedAt
    valid := ⟨row.valid.1, row.valid.2.1, row.valid.2.2.1, row.valid.2.2.2.1,
      row.valid.2.2.2.2.1, row.valid.2.2.2.2.2.1, row.valid.2.2.2.2.2.2.1,
      row.valid.2.2.2.2.2.2.2.1, reviewed.valid.2.2.2.2.2.2.2.2⟩ }

/-- `delivery` is the previous one, with the revision marked as reviewed. -/
def SupplierEmailDelivery.MarksReviewed (delivery previous : SupplierEmailDelivery)
    (revision : SupplierEmailRevision) (expectedRevision : Nat) : Prop :=
  delivery.emailId = previous.emailId ∧ delivery.decisionId = previous.decisionId ∧
    delivery.reviewedRevision = some expectedRevision ∧
    delivery.sendStatus = previous.sendStatus ∧
    delivery.providerMessageId = previous.providerMessageId ∧
    delivery.internetMessageId = previous.internetMessageId ∧
    delivery.correlationId = previous.correlationId ∧
    some delivery.statusUpdatedAt = revision.reviewedAt ∧
    delivery.failureCode = previous.failureCode

instance (delivery previous : SupplierEmailDelivery) (revision : SupplierEmailRevision)
    (expectedRevision : Nat) :
    Decidable (delivery.MarksReviewed previous revision expectedRevision) :=
  inferInstanceAs (Decidable (_ ∧ _))

/-- The part of `mark_reviewed` behind the check of the current revision. -/
def reviewOf (revision previous : SupplierEmailRevision)
    (delivery previousDelivery : SupplierEmailDelivery) (expectedRevision : Nat) : Sql Bool :=
  if previous.reviewedAt.isSome then
    pure (decide (previous = revision ∧ previousDelivery = delivery))
  else do
    require (revision.unreviewed = previous ∧ revision.reviewedBy.isSome ∧
        delivery.MarksReviewed previousDelivery revision expectedRevision)
      (integrityError "supplier email review changes content or delivery state")
    let matched ← updateRow Store.emailRevisions (fun s t => { s with emailRevisions := t })
      (.emailRevision revision.emailId expectedRevision) (fun row => row.reviewedAt = none)
      revision.reviewedAs (fun _ _ => rfl)
    if matched then do
      updateDelivery delivery
      pure true
    else pure false

/-- `mark_reviewed`. -/
def markReviewed (revision : SupplierEmailRevision) (delivery : SupplierEmailDelivery)
    (expectedRevision : Nat) : Sql Bool := do
  let claimed ← claimDeliveryForWrite revision.decisionId
  if claimed then do
    let current ← getCurrent revision.decisionId
    match current with
    | none => pure false
    | some (previous, previousDelivery) =>
      if previous.revision = expectedRevision then
        reviewOf revision previous delivery previousDelivery expectedRevision
      else pure false
  else pure false

/-- The `WHERE` clause of `claim_send`. -/
def SupplierEmailDelivery.Sendable (delivery : SupplierEmailDelivery) (expectedRevision : Nat)
    (row : SupplierEmailDelivery) : Prop :=
  row.decisionId = delivery.decisionId ∧ row.reviewedRevision = some expectedRevision ∧
    row.Editable

instance (delivery : SupplierEmailDelivery) (expectedRevision : Nat) :
    DecidablePred (delivery.Sendable expectedRevision) :=
  fun _ => inferInstanceAs (Decidable (_ ∧ _))

/-- `claim_send`. -/
def claimSend (delivery : SupplierEmailDelivery) (expectedRevision : Nat) : Sql Bool := do
  require (delivery.reviewedRevision = some expectedRevision ∧
      delivery.sendStatus = .submitting ∧ delivery.correlationId.isSome ∧
      delivery.providerMessageId = none ∧ delivery.internetMessageId = none ∧
      delivery.failureCode = none)
    (integrityError "supplier email send claim is invalid")
  updateRow Store.deliveries (fun s t => { s with deliveries := t }) (.delivery delivery.emailId)
    (delivery.Sendable expectedRevision) delivery.rewritten (fun _ _ => rfl)

/-- The `WHERE` clause of `update_delivery_state`. -/
def SupplierEmailDelivery.Awaits (delivery : SupplierEmailDelivery) (correlationId : String)
    (statuses : List SupplierEmailSendStatus) (row : SupplierEmailDelivery) : Prop :=
  row.decisionId = delivery.decisionId ∧ row.correlationId = some correlationId ∧
    row.sendStatus ∈ statuses

instance (delivery : SupplierEmailDelivery) (correlationId : String)
    (statuses : List SupplierEmailSendStatus) :
    DecidablePred (delivery.Awaits correlationId statuses) :=
  fun _ => inferInstanceAs (Decidable (_ ∧ _))

/-- `update_delivery_state`. -/
def updateDeliveryState (delivery : SupplierEmailDelivery) (expectedCorrelationId : String)
    (expectedStatuses : List SupplierEmailSendStatus) : Sql Bool := do
  require (delivery.correlationId = some expectedCorrelationId ∧ expectedStatuses ≠ [])
    (integrityError "supplier email delivery transition is invalid")
  updateRow Store.deliveries (fun s t => { s with deliveries := t }) (.delivery delivery.emailId)
    (delivery.Awaits expectedCorrelationId expectedStatuses) delivery.rewritten (fun _ _ => rfl)

/-! ### What the reads and writes did -/

theorem readOnly_currentOf (decisionId : String) (delivery : Option SupplierEmailDelivery) :
    (currentOf decisionId delivery).ReadOnly := by
  cases delivery with
  | none => exact readOnly_done _
  | some d =>
    exact (readOnly_select _).bind fun _ => (readOnly_orRaise _ _).bind fun _ =>
      (readOnly_require _ _).bind fun _ => (readOnly_require _ _).bind fun _ => readOnly_done _

theorem readOnly_getCurrent (decisionId : String) : (getCurrent decisionId).ReadOnly :=
  (readOnly_select _).bind fun d => readOnly_currentOf decisionId d

theorem readOnly_requireActionBinding (revision : SupplierEmailRevision) :
    (requireActionBinding revision).ReadOnly :=
  (readOnly_getAction _).bind fun _ => (readOnly_require _ _).bind fun _ =>
    (readOnly_getDraftArtifact _).bind fun _ => readOnly_require _ _

/-- What `get_current` says of the two tables. -/
structure CurrentEmail (s : Store) (decisionId : String) (revision : SupplierEmailRevision)
    (delivery : SupplierEmailDelivery) : Prop where
  stored : deliveryOf s decisionId = some delivery
  latest : latestEmail s delivery.emailId decisionId = some revision
  agrees : delivery.Matches revision
  reviewed : delivery.reviewedRevision = some revision.revision → revision.reviewedBy.isSome

theorem returns_getCurrent {decisionId : String} {s s' : Store}
    {o : Option (SupplierEmailRevision × SupplierEmailDelivery)}
    (h : (getCurrent decisionId).Returns s o s') :
    (o = none ∧ deliveryOf s decisionId = none) ∨
      ∃ revision delivery, o = some (revision, delivery) ∧
        CurrentEmail s decisionId revision delivery := by
  rw [getCurrent, returns_select_bind] at h
  rcases hd : deliveryOf s decisionId with _ | delivery <;> rw [hd] at h
  · exact .inl ⟨(returns_done.mp h).1, rfl⟩
  · rw [currentOf, returns_select_bind, returns_orRaise_bind] at h
    obtain ⟨revision, hrev, h⟩ := h
    obtain ⟨hmatch, h⟩ := returns_require_bind.mp h
    obtain ⟨hreviewed, h⟩ := returns_require_bind.mp h
    exact .inr ⟨revision, delivery, (returns_done.mp h).1, ⟨hd, hrev, hmatch, hreviewed⟩⟩

theorem CurrentEmail.returns {s : Store} {decisionId : String}
    {revision : SupplierEmailRevision} {delivery : SupplierEmailDelivery}
    (h : CurrentEmail s decisionId revision delivery) :
    (getCurrent decisionId).Returns s (some (revision, delivery)) s := by
  rw [getCurrent, returns_select_bind, h.stored, currentOf, returns_select_bind,
    returns_orRaise_bind]
  exact ⟨revision, h.latest, returns_require_bind.mpr
    ⟨h.agrees, returns_require_bind.mpr ⟨h.reviewed, returns_done.mpr ⟨rfl, rfl⟩⟩⟩⟩

/-- The lock changes nothing. -/
theorem returns_claimDeliveryForWrite {decisionId : String} {s s' : Store} {claimed : Bool}
    (h : (claimDeliveryForWrite decisionId).Returns s claimed s') : s' = s := by
  rcases returns_updateRow.mp h with ⟨row, -, -, -, rfl⟩ | ⟨-, -, rfl⟩
  · rw [Table.modify_id]
  · rfl

theorem returns_updateDelivery {delivery : SupplierEmailDelivery} {s s' : Store} {u : Unit}
    (h : (updateDelivery delivery).Returns s u s') :
    s' = { s with
      deliveries := s.deliveries.modify (.delivery delivery.emailId) delivery.rewritten
        (fun _ _ => rfl) } :=
  (returns_updateExisting.mp h).2

/-- The first revision of an email and its delivery were stored. -/
structure InsertsEmail (s : Store) (revision : SupplierEmailRevision)
    (delivery : SupplierEmailDelivery) (s' : Store) : Prop where
  first : revision.revision = 1 ∧ revision.reviewedBy = none
  draft : delivery.emailId = revision.emailId ∧ delivery.decisionId = revision.decisionId ∧
    delivery.reviewedRevision = none ∧ delivery.sendStatus = .draft
  absent : deliveryOf s revision.decisionId = none
  free : s.deliveries.Free delivery ∧ s.emailRevisions.Free revision
  effect : s' = { s with
    deliveries := s.deliveries.add delivery
    emailRevisions := s.emailRevisions.add revision }

theorem returns_insertInitial {revision : SupplierEmailRevision}
    {delivery : SupplierEmailDelivery} {s s' : Store} {u : Unit}
    (h : (insertInitial revision delivery).Returns s u s') :
    InsertsEmail s revision delivery s' := by
  obtain ⟨hfirst, h⟩ := returns_require_bind.mp h
  obtain ⟨hdraft, h⟩ := returns_require_bind.mp h
  obtain ⟨current, hcurrent, h⟩ := (readOnly_getCurrent _).returns_bind.mp h
  obtain ⟨hnone, h⟩ := returns_require_bind.mp h
  obtain ⟨_, -, h⟩ := (readOnly_requireActionBinding _).returns_bind.mp h
  obtain ⟨_, s₁, hdelivery, h⟩ := returns_bind.mp h
  obtain ⟨hfree, rfl⟩ := returns_insertInto.mp hdelivery
  obtain ⟨hfree', rfl⟩ := returns_insertInto.mp h
  refine ⟨hfirst, hdraft, ?_, ⟨hfree, hfree'⟩, rfl⟩
  rcases returns_getCurrent hcurrent with ⟨-, habsent⟩ | ⟨_, _, rfl, -⟩
  · exact habsent
  · cases hnone

theorem returns_tryInsertRevision {revision : SupplierEmailRevision} {s s' : Store}
    (h : (tryInsertRevision revision).Returns s true s') :
    s.emailRevisions.Free revision ∧
      s' = { s with emailRevisions := s.emailRevisions.add revision } := by
  rcases returns_tryCatch.mp h with h | ⟨e, s₁, -, h⟩
  · obtain ⟨_, s₁, hins, h⟩ := returns_bind.mp h
    obtain ⟨hfree, rfl⟩ := returns_insertInto.mp hins
    exact ⟨hfree, (returns_done.mp h).2⟩
  · obtain ⟨-, h⟩ | ⟨-, h⟩ := returns_ite.mp h
    · cases (returns_done.mp h).1
    · cases h

/-- A revision was appended to an email that may be edited. -/
structure AppendsRevision (s : Store) (revision : SupplierEmailRevision) (expectedRevision : Nat)
    (s' : Store) : Prop where
  previous : ∃ previous delivery, CurrentEmail s revision.decisionId previous delivery ∧
    previous.revision = expectedRevision ∧ delivery.Editable ∧
    revision.emailId = previous.emailId ∧ revision.revision = expectedRevision + 1 ∧
    revision.reviewedBy = none ∧ s.emailRevisions.Free revision ∧
    s' = { s with
      emailRevisions := s.emailRevisions.add revision
      deliveries := s.deliveries.modify (.delivery delivery.emailId)
        (delivery.redrafted revision.editedAt).rewritten (fun _ _ => rfl) }

theorem returns_appendRevision {revision : SupplierEmailRevision} {expectedRevision : Nat}
    {s s' : Store} (h : (appendRevision revision expectedRevision).Returns s true s') :
    AppendsRevision s revision expectedRevision s' := by
  obtain ⟨claimed, s₁, hclaim, h⟩ := returns_bind.mp h
  rw [returns_claimDeliveryForWrite hclaim] at h
  obtain ⟨-, h⟩ | ⟨-, h⟩ := returns_ite.mp h
  swap
  · cases (returns_done.mp h).1
  obtain ⟨current, hcurrent, h⟩ := (readOnly_getCurrent _).returns_bind.mp h
  rcases returns_getCurrent hcurrent with ⟨rfl, -⟩ | ⟨previous, delivery, rfl, hstored⟩
  · cases (returns_done.mp h).1
  obtain ⟨hrevision, h⟩ | ⟨-, h⟩ := returns_ite.mp h
  swap
  · cases (returns_done.mp h).1
  obtain ⟨-, h⟩ | ⟨heditable, h⟩ := returns_ite.mp h
  · cases (returns_done.mp h).1
  obtain ⟨⟨hemail, -, -, -, -, hnumber, hunreviewed⟩, h⟩ := returns_require_bind.mp h
  obtain ⟨_, -, h⟩ := (readOnly_requireActionBinding _).returns_bind.mp h
  obtain ⟨inserted, s₂, hinsert, h⟩ := returns_bind.mp h
  obtain ⟨rfl, h⟩ | ⟨-, h⟩ := returns_ite.mp h
  swap
  · cases (returns_done.mp h).1
  obtain ⟨hfree, rfl⟩ := returns_tryInsertRevision hinsert
  obtain ⟨_, s₃, hupdate, h⟩ := returns_bind.mp h
  obtain rfl := returns_updateDelivery hupdate
  obtain ⟨-, rfl⟩ := returns_done.mp h
  exact ⟨previous, delivery, hstored, hrevision, not_not.mp heditable, hemail, hnumber,
    hunreviewed, hfree, rfl⟩

/-- The current revision of an email was marked as reviewed, or was already. -/
structure MarksRevision (s : Store) (revision : SupplierEmailRevision)
    (delivery : SupplierEmailDelivery) (expectedRevision : Nat) (s' : Store) : Prop where
  previous : ∃ previous previousDelivery,
    CurrentEmail s revision.decisionId previous previousDelivery ∧
    previous.revision = expectedRevision ∧
    ((revision = previous ∧ delivery = previousDelivery ∧ s' = s) ∨
      (previous.reviewedAt = none ∧ revision.unreviewed = previous ∧
        revision.reviewedBy.isSome ∧
        delivery.MarksReviewed previousDelivery revision expectedRevision ∧
        s' = { s with
          emailRevisions := s.emailRevisions.modify
            (.emailRevision revision.emailId expectedRevision) revision.reviewedAs
            (fun _ _ => rfl)
          deliveries := s.deliveries.modify (.delivery delivery.emailId) delivery.rewritten
            (fun _ _ => rfl) }))

theorem returns_markReviewed {revision : SupplierEmailRevision}
    {delivery : SupplierEmailDelivery} {expectedRevision : Nat} {s s' : Store}
    (h : (markReviewed revision delivery expectedRevision).Returns s true s') :
    MarksRevision s revision delivery expectedRevision s' := by
  obtain ⟨claimed, s₁, hclaim, h⟩ := returns_bind.mp h
  rw [returns_claimDeliveryForWrite hclaim] at h
  obtain ⟨-, h⟩ | ⟨-, h⟩ := returns_ite.mp h
  swap
  · cases (returns_done.mp h).1
  obtain ⟨current, hcurrent, h⟩ := (readOnly_getCurrent _).returns_bind.mp h
  rcases returns_getCurrent hcurrent with ⟨rfl, -⟩ | ⟨previous, previousDelivery, rfl, hstored⟩
  · cases (returns_done.mp h).1
  obtain ⟨hrevision, h⟩ | ⟨-, h⟩ := returns_ite.mp h
  swap
  · cases (returns_done.mp h).1
  obtain ⟨-, h⟩ | ⟨hopen, h⟩ := returns_ite.mp h
  · obtain ⟨hsame, rfl⟩ := returns_done.mp h
    obtain ⟨heq, heq'⟩ := of_decide_eq_true hsame.symm
    exact ⟨previous, previousDelivery, hstored, hrevision, .inl ⟨heq.symm, heq'.symm, rfl⟩⟩
  obtain ⟨⟨hcontent, hreviewer, hmarks⟩, h⟩ := returns_require_bind.mp h
  obtain ⟨matched, s₂, hmatch, h⟩ := returns_bind.mp h
  obtain ⟨rfl, h⟩ | ⟨-, h⟩ := returns_ite.mp h
  swap
  · cases (returns_done.mp h).1
  rcases returns_updateRow.mp hmatch with ⟨row, -, -, -, rfl⟩ | ⟨-, hfalse, -⟩
  swap
  · cases hfalse
  obtain ⟨_, s₃, hupdate, h⟩ := returns_bind.mp h
  obtain rfl := returns_updateDelivery hupdate
  obtain ⟨-, rfl⟩ := returns_done.mp h
  exact ⟨previous, previousDelivery, hstored, hrevision,
    .inr ⟨Option.not_isSome_iff_eq_none.mp hopen, hcontent, hreviewer, hmarks, rfl⟩⟩

/-- The stored delivery satisfied the condition and was rewritten. -/
structure RewritesDelivery (s : Store) (delivery : SupplierEmailDelivery)
    (cond : SupplierEmailDelivery → Prop) (s' : Store) : Prop where
  row : ∃ row, s.deliveries.get? (.delivery delivery.emailId) = some row ∧ cond row
  effect : s' = { s with
    deliveries := s.deliveries.modify (.delivery delivery.emailId) delivery.rewritten
      (fun _ _ => rfl) }

theorem returns_claimSend {delivery : SupplierEmailDelivery} {expectedRevision : Nat}
    {s s' : Store} (h : (claimSend delivery expectedRevision).Returns s true s') :
    RewritesDelivery s delivery (delivery.Sendable expectedRevision) s' := by
  obtain ⟨-, h⟩ := returns_require_bind.mp h
  rcases returns_updateRow.mp h with ⟨row, hrow, hc, -, rfl⟩ | ⟨-, hfalse, -⟩
  · exact ⟨⟨row, hrow, hc⟩, rfl⟩
  · cases hfalse

theorem returns_updateDeliveryState {delivery : SupplierEmailDelivery} {correlationId : String}
    {statuses : List SupplierEmailSendStatus} {s s' : Store}
    (h : (updateDeliveryState delivery correlationId statuses).Returns s true s') :
    RewritesDelivery s delivery (delivery.Awaits correlationId statuses) s' := by
  obtain ⟨-, h⟩ := returns_require_bind.mp h
  rcases returns_updateRow.mp h with ⟨row, hrow, hc, -, rfl⟩ | ⟨-, hfalse, -⟩
  · exact ⟨⟨row, hrow, hc⟩, rfl⟩
  · cases hfalse

end SupplyResponse
