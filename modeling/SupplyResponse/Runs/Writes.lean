/-
The write statements of the service.

* `WriteKind` — one name for every statement of the repositories that writes;
* `Writing` — the locks such a statement takes and the write it registers, with
  the conditions under which it is reached;
* `Among` — a statement that reads, or writes by one of the listed kinds;
* the `among_…` lemmas — which kinds the repositories and services use.
-/
import SupplyResponse.Services.ReviewedEmail
import SupplyResponse.Services.Worker
import SupplyResponse.Services.Playback

namespace SupplyResponse

open Transact Transact.Prog
open Keyed (keys)

inductive WriteKind
  | newCase | newSnapshot | newProjection | saveProjection
  | newAnalysis | advanceLegacy | compareAndSet | guard
  | newClaim | dropClaim
  | newSelection | newReview | newDecision | newSatisfaction
  | newEvent | claimEvent | processEvent | failEvent
  | setStatus | setDecision
  | newAction | newActionProjection | countAttempt | setAction | newStatusEvent
  | newDraft | fillDraft | newAttempt | endAttempt
  | newPlayback | endPlayback | newObservation
  | newDelivery | newRevision | lockDelivery | setDelivery | claimDelivery | moveDelivery
  | markRevision
  deriving DecidableEq

/-- A write statement of a kind, executed on the view `v`: its locks and its
write. -/
inductive Writing : WriteKind → Store → List Key → (Store → Store) → Prop
  | newCase {v : Store} (r : CaseInstance) (free : v.cases.Free r) :
    Writing .newCase v (keys r) fun s => { s with cases := s.cases.add r }
  | newSnapshot {v : Store} (r : OperationalSnapshot) (free : v.snapshots.Free r) :
    Writing .newSnapshot v (keys r) fun s => { s with snapshots := s.snapshots.add r }
  | newProjection {v : Store} (case : CaseInstance)
    (free : v.projections.Free (CaseProjectionRow.initial case)) :
    Writing .newProjection v (keys (CaseProjectionRow.initial case)) fun s => { s with
      projections := s.projections.add (CaseProjectionRow.initial case) }
  | saveProjection {v : Store} (row : CaseProjectionRow) (case : CaseInstance)
    (stored : v.projections.get? (.projection case.caseId) = some row) :
    Writing .saveProjection v (keys row) fun s => { s with
      projections := s.projections.modify (.projection case.caseId)
        (fun r => { r with case := case }) (fun _ _ => rfl) }
  | newAnalysis {v : Store} (r : AnalysisVersion) (free : v.analyses.Free r) :
    Writing .newAnalysis v (keys r) fun s => { s with analyses := s.analyses.add r }
  | advanceLegacy {v : Store} (row : CaseProjectionRow) (caseId : String) (values : CasValues)
    (stored : v.projections.get? (.projection caseId) = some row) :
    Writing .advanceLegacy v (keys row) fun s => { s with
      projections := s.projections.modify (.projection caseId)
        (fun r => values.apply r.proposalGeneration r) (fun _ _ => rfl) }
  | compareAndSet {v : Store} (row : CaseProjectionRow) (caseId : String)
    (expected : ProposalToken) (values : CasValues)
    (stored : v.projections.get? (.projection caseId) = some row) (shows : row.Shows expected) :
    Writing .compareAndSet v (keys row) fun s => s.cas caseId expected values
  | guard {v : Store} (row : CaseProjectionRow) (caseId : String) (expected : ProposalToken)
    (stored : v.projections.get? (.projection caseId) = some row) (shows : row.Shows expected) :
    Writing .guard v (keys row) fun s =>
      s.cas caseId expected { currentSelectionId := some expected.selectionId }
  | newClaim {v : Store} (r : AnalysisClaimRow) (free : v.claims.Free r) :
    Writing .newClaim v (keys r) fun s => { s with claims := s.claims.add r }
  | dropClaim {v : Store} (row : AnalysisClaimRow) (caseId version : String) :
    Writing .dropClaim v (keys row) fun s => { s with
      claims := s.claims.delete (.claim caseId version) }
  | newSelection {v : Store} (r : SelectionReceipt) (free : v.selections.Free r) :
    Writing .newSelection v (keys r) fun s => { s with selections := s.selections.add r }
  | newReview {v : Store} (r : FinanceReviewRow) (free : v.reviews.Free r) :
    Writing .newReview v (keys r) fun s => { s with reviews := s.reviews.add r }
  | newDecision {v : Store} (r : Decision) (free : v.decisions.Free r) :
    Writing .newDecision v (keys r) fun s => { s with decisions := s.decisions.add r }
  | newSatisfaction {v : Store} (r : SatisfactionRow) (free : v.satisfactions.Free r) :
    Writing .newSatisfaction v (keys r) fun s => { s with satisfactions := s.satisfactions.add r }
  | newEvent {v : Store} (event : ActionPlanningRequested)
    (free : v.outbox.Free (OutboxRow.pending event)) :
    Writing .newEvent v (keys (OutboxRow.pending event)) fun s => { s with
      outbox := s.outbox.add (OutboxRow.pending event) }
  | claimEvent {v : Store} (row : OutboxRow) (eventId : String) (filter : OutboxFilter)
    (stored : v.outbox.get? (.outbox eventId) = some row) (ready : row.Ready filter) :
    Writing .claimEvent v (keys row) fun s =>
      s.modifyOutbox eventId (OutboxRow.claimed filter.now) (fun _ _ => rfl)
  | processEvent {v : Store} (row : OutboxRow) (eventId : String) (now : Instant)
    (stored : v.outbox.get? (.outbox eventId) = some row)
    (claimed : row.claimStatus = .claimed ∧ row.processedAt = none) :
    Writing .processEvent v (keys row) fun s =>
      s.modifyOutbox eventId (OutboxRow.processed now) (fun _ _ => rfl)
  | failEvent {v : Store} (row : OutboxRow) (eventId code : String)
    (stored : v.outbox.get? (.outbox eventId) = some row)
    (live : row.processedAt = none ∧ row.lastError ≠ some executionProposalStaleError) :
    Writing .failEvent v (keys row) fun s =>
      s.modifyOutbox eventId (OutboxRow.failed code) (fun _ _ => rfl)
  | setStatus {v : Store} (row : CaseProjectionRow) (caseId : String) (changed : CaseInstance)
    (stored : v.projections.get? (.projection caseId) = some row) :
    Writing .setStatus v (keys row) fun s => { s with
      projections := s.projections.modify (.projection caseId)
        (fun r => { r with case := changed }) (fun _ _ => rfl) }
  | setDecision {v : Store} (row : CaseProjectionRow) (caseId decisionId : String)
    (changed : CaseInstance) (stored : v.projections.get? (.projection caseId) = some row) :
    Writing .setDecision v (keys row) fun s => { s with
      projections := s.projections.modify (.projection caseId)
        (fun r => { r with case := changed, currentDecisionId := some decisionId })
        (fun _ _ => rfl) }
  | newAction {v : Store} (r : ExecutionAction) (free : v.actions.Free r) :
    Writing .newAction v (keys r) fun s => { s with actions := s.actions.add r }
  | newActionProjection {v : Store} (r : ActionProjectionRow)
    (free : v.actionProjections.Free r) :
    Writing .newActionProjection v (keys r) fun s => { s with
      actionProjections := s.actionProjections.add r }
  | countAttempt {v : Store} (row : ActionProjectionRow) (actionId : String) (number : Nat)
    (stored : v.actionProjections.get? (.actionProjection actionId) = some row) :
    Writing .countAttempt v (keys row) fun s =>
      s.modifyActionProjection actionId (fun r => { r with currentAttempt := number })
        (fun _ _ => rfl)
  | setAction {v : Store} (row : ActionProjectionRow) (action : ExecutionAction)
    (stored : v.actionProjections.get? (.actionProjection action.actionId) = some row) :
    Writing .setAction v (keys row) fun s =>
      s.modifyActionProjection action.actionId (fun r => { r with action := action })
        (fun _ _ => rfl)
  | newStatusEvent {v : Store} (r : ExecutionStatusEvent) (free : v.statusEvents.Free r) :
    Writing .newStatusEvent v (keys r) fun s => { s with
      statusEvents := s.statusEvents.add r }
  | newDraft {v : Store} (r : DraftArtifact) (free : v.drafts.Free r) :
    Writing .newDraft v (keys r) fun s => { s with drafts := s.drafts.add r }
  | fillDraft {v : Store} (row artifact : DraftArtifact)
    (stored : v.drafts.get? (.draft artifact.artifactId) = some row) :
    Writing .fillDraft v (keys row) fun s => { s with
      drafts := s.drafts.modify (.draft artifact.artifactId)
        (fun r => { r with
          subject := artifact.subject, body := artifact.body, valid := artifact.valid })
        (fun _ _ => rfl) }
  | newAttempt {v : Store} (r : ExecutionAttempt) (free : v.attempts.Free r) :
    Writing .newAttempt v (keys r) fun s => { s with attempts := s.attempts.add r }
  | endAttempt {v : Store} (row attempt : ExecutionAttempt)
    (stored : v.attempts.get? (.attempt attempt.attemptId) = some row) :
    Writing .endAttempt v (keys row) fun s => { s with
      attempts := s.attempts.modify (.attempt attempt.attemptId) attempt.finishedAs
        (fun _ _ => rfl) }
  | newPlayback {v : Store} (r : Playback) (free : v.playbacks.Free r) :
    Writing .newPlayback v (keys r) fun s => { s with playbacks := s.playbacks.add r }
  | endPlayback {v : Store} (row playback : Playback)
    (stored : v.playbacks.get? (.playback playback.playbackId) = some row)
    (live : row.status = .inProgress) :
    Writing .endPlayback v (keys row) fun s => { s with
      playbacks := s.playbacks.modify (.playback playback.playbackId) playback.ended
        (fun _ _ => rfl) }
  | newObservation {v : Store} (r : OutcomeObservation) (free : v.observations.Free r) :
    Writing .newObservation v (keys r) fun s => { s with observations := s.observations.add r }
  | newDelivery {v : Store} (r : SupplierEmailDelivery) (free : v.deliveries.Free r) :
    Writing .newDelivery v (keys r) fun s => { s with deliveries := s.deliveries.add r }
  | newRevision {v : Store} (r : SupplierEmailRevision) (free : v.emailRevisions.Free r) :
    Writing .newRevision v (keys r) fun s => { s with
      emailRevisions := s.emailRevisions.add r }
  | lockDelivery {v : Store} (row : SupplierEmailDelivery) (decisionId : String)
    (stored : v.deliveries.get? (.deliveryDecision decisionId) = some row) :
    Writing .lockDelivery v (keys row) fun s => { s with
      deliveries := s.deliveries.modify (.deliveryDecision decisionId) id (fun _ _ => rfl) }
  | setDelivery {v : Store} (row delivery : SupplierEmailDelivery)
    (stored : v.deliveries.get? (.delivery delivery.emailId) = some row) :
    Writing .setDelivery v (keys row) fun s => { s with
      deliveries := s.deliveries.modify (.delivery delivery.emailId) delivery.rewritten
        (fun _ _ => rfl) }
  | claimDelivery {v : Store} (row delivery : SupplierEmailDelivery) (expectedRevision : Nat)
    (stored : v.deliveries.get? (.delivery delivery.emailId) = some row)
    (sendable : delivery.Sendable expectedRevision row) :
    Writing .claimDelivery v (keys row) fun s => { s with
      deliveries := s.deliveries.modify (.delivery delivery.emailId) delivery.rewritten
        (fun _ _ => rfl) }
  | moveDelivery {v : Store} (row delivery : SupplierEmailDelivery) (correlationId : String)
    (statuses : List SupplierEmailSendStatus)
    (stored : v.deliveries.get? (.delivery delivery.emailId) = some row)
    (awaits : delivery.Awaits correlationId statuses row) :
    Writing .moveDelivery v (keys row) fun s => { s with
      deliveries := s.deliveries.modify (.delivery delivery.emailId) delivery.rewritten
        (fun _ _ => rfl) }
  | markRevision {v : Store} (row revision : SupplierEmailRevision) (number : Nat)
    (stored : v.emailRevisions.get? (.emailRevision revision.emailId number) = some row)
    (unreviewed : row.reviewedAt = none) :
    Writing .markRevision v (keys row) fun s => { s with
      emailRevisions := s.emailRevisions.modify (.emailRevision revision.emailId number)
        revision.reviewedAs (fun _ _ => rfl) }

/-- A statement that writes nothing, or writes by one of the kinds. -/
def Among (kinds : List WriteKind) (v : Store) (l : List Key) (u : Store → Store) : Prop :=
  (l = [] ∧ u = id) ∨ ∃ kind ∈ kinds, Writing kind v l u

namespace Among

variable {kinds : List WriteKind}

theorem quiet (v : Store) : Among kinds v [] id := .inl ⟨rfl, rfl⟩

theorem of_writing {kind : WriteKind} (hk : kind ∈ kinds) {v : Store} {l : List Key}
    {u : Store → Store} (h : Writing kind v l u) : Among kinds v l u :=
  .inr ⟨kind, hk, h⟩

theorem mono {kinds' : List WriteKind} (h : kinds ⊆ kinds') {v : Store} {l : List Key}
    {u : Store → Store} (ha : Among kinds v l u) : Among kinds' v l u :=
  ha.imp_right fun ⟨k, hk, hw⟩ => ⟨k, h hk, hw⟩

end Among

/-- Only writes of the listed kinds. -/
structure Uses {α : Type} (kinds : List WriteKind) (p : Sql α) : Prop where
  writes : p.Writes (Among kinds)

namespace Uses

variable {kinds : List WriteKind} {α β : Type}

theorem done (a : α) : Uses kinds (.done a) := ⟨writes_done a⟩

theorem require (c : Prop) [Decidable c] (e : Raised) : Uses kinds (.require c e) :=
  ⟨writes_require c e⟩

theorem bind {p : Sql α} {f : α → Sql β} (hp : Uses kinds p) (hf : ∀ a, Uses kinds (f a)) :
    Uses kinds (p >>= f) :=
  ⟨hp.writes.bind fun a => (hf a).writes⟩

theorem ite {c : Prop} [Decidable c] {p q : Sql α} (hp : Uses kinds p) (hq : Uses kinds q) :
    Uses kinds (if c then p else q) :=
  ⟨hp.writes.ite hq.writes⟩

theorem tryCatch {p : Sql α} {h : Raised → Sql α} (hp : Uses kinds p)
    (hh : ∀ e, Uses kinds (h e)) : Uses kinds (p.tryCatch h) :=
  ⟨hp.writes.tryCatch fun e => (hh e).writes⟩

theorem mapError {p : Sql α} (hp : Uses kinds p) (caught : ExceptionClass → Bool)
    (replacement : Raised) : Uses kinds (mapError p caught replacement) :=
  ⟨writes_mapError hp.writes caught replacement⟩

theorem forEach {body : β → Sql Unit} (h : ∀ item, Uses kinds (body item)) (items : List β) :
    Uses kinds (forEach body items) :=
  ⟨writes_forEach (fun item => (h item).writes) items⟩

theorem of_readOnly {p : Sql α} (hp : p.ReadOnly) : Uses kinds p := ⟨hp.writes Among.quiet⟩

/-- Reads in front of a program do not count. -/
theorem after {p : Sql α} {f : α → Sql β} (hp : p.ReadOnly) (hf : ∀ a, Uses kinds (f a)) :
    Uses kinds (p >>= f) :=
  (of_readOnly hp).bind hf

theorem write {f : Store → Option (List Key × (Store → Store))} {kind : WriteKind}
    (hk : kind ∈ kinds) (h : ∀ v l u, f v = some (l, u) → Writing kind v l u) :
    Uses kinds (write f) :=
  ⟨writes_write Among.quiet fun v l u hf => .of_writing hk (h v l u hf)⟩

variable {ρ : Type} [Keyed Key ρ]

theorem insertInto {table : Store → Table Key ρ} {setTable : Store → Table Key ρ → Store} {r : ρ}
    {kind : WriteKind} (hk : kind ∈ kinds)
    (h : ∀ v, (table v).Free r →
      Writing kind v (keys r) fun s => setTable s ((table s).add r)) :
    Uses kinds (insertInto table setTable r) :=
  ⟨writes_insertInto Among.quiet fun v hf => .of_writing hk (h v hf)⟩

theorem updateRow {table : Store → Table Key ρ} {setTable : Store → Table Key ρ → Store}
    {k : Key} {cond : ρ → Prop} [DecidablePred cond] {f : ρ → ρ}
    {hf : ∀ r, k ∈ keys r → keys (f r) = keys r} {kind : WriteKind} (hk : kind ∈ kinds)
    (h : ∀ v r, (table v).get? k = some r → cond r →
      Writing kind v (keys r) fun s => setTable s ((table s).modify k f hf)) :
    Uses kinds (updateRow table setTable k cond f hf) :=
  ⟨writes_updateRow Among.quiet fun v r hr hc => .of_writing hk (h v r hr hc)⟩

theorem updateExisting {table : Store → Table Key ρ} {setTable : Store → Table Key ρ → Store}
    {k : Key} {f : ρ → ρ} {hf : ∀ r, k ∈ keys r → keys (f r) = keys r} {missing : Raised}
    {kind : WriteKind} (hk : kind ∈ kinds)
    (h : ∀ v r, (table v).get? k = some r →
      Writing kind v (keys r) fun s => setTable s ((table s).modify k f hf)) :
    Uses kinds (updateExisting table setTable k f hf missing) :=
  ⟨writes_updateExisting Among.quiet fun v r hr => .of_writing hk (h v r hr)⟩

end Uses

end SupplyResponse
