/-
Replays of the Finance commands.

* `Answered` — a call and its second transaction answer the same, without
  effect;
* `Replays` — the answers to a key that is in use: the stored result to the same
  command, the conflict of the operation to another one, a denial to everyone
  but the person that the operation is bound to;
* `submit_stored`, `resolve_stored`, `finalize_stored` — what a committed
  command left behind, readable ever after;
* `finance_replays` — every committed command is replayed.
-/
import SupplyResponse.Runs.Recordings

namespace SupplyResponse

open Transact Transact.Prog
open Keyed (keys)

variable {env : Env} {s s' : Store} {α χ : Type}

/-! ### Answers -/

/-- The call answers `r` in its first transaction or, after contention, in its
second, and changes nothing. -/
structure Answered (call : Store → Except Raised α × Store) (recovery : Raised → Sql (Exit α))
    (r : Except Raised α) (s : Store) : Prop where
  call : call s = (r, s)
  recovery : ∀ original, (recovery original).transact s = (r, s)

/-- The refusal of everyone but the configured person. -/
def permissionDenied : Raised :=
  ⟨.financePermissionDenied, "Exact configured Finance workflow identity required"⟩

/-- What the key of a committed command is answered. -/
structure Replays (env : Env) (call : χ → IdentitySnapshot → Store → Except Raised α × Store)
    (recovery : χ → IdentitySnapshot → Raised → Sql (Exit α))
    (material : χ → AuthorityMaterial → HashMaterial) (key : χ → String)
    (bound : IdentitySnapshot → Prop) (conflict : Raised) (command : χ) (result : α)
    (s : Store) : Prop where
  same : ∀ actor, bound actor →
    Answered (call command actor) (recovery command actor) (.ok result) s
  other : ∀ command' actor, bound actor → key command' = key command → command' ≠ command →
    env.Distinguishes (material command' (authorityMaterial actor))
      (material command (authorityMaterial actor)) →
        Answered (call command' actor) (recovery command' actor) (.error conflict) s
  stranger : ∀ command' actor, ¬bound actor → call command' actor s = (.error permissionDenied, s)

/-- A call whose two transactions come down to a replay that returns. -/
theorem answered_ok {contention : ExceptionClass → Bool} {first : Sql (Exit α)}
    {recovery : Raised → Sql (Exit α)} {replay : Sql α} {a : α} (h : replay.Returns s a s)
    (hfirst : first.run s = (Exit.rollback <$> replay).run s)
    (hrecovery : ∀ e, (recovery e).run s = (Exit.rollback <$> replay).run s) :
    Answered (withRecovery contention first recovery) recovery (.ok a) s := by
  have hrollback : (Exit.rollback <$> replay).Returns s (.rollback a) s :=
    returns_map.mpr ⟨a, h, rfl⟩
  exact ⟨withRecovery_of_ok (transact_of_rollback (hfirst.trans hrollback)),
    fun e => transact_of_rollback ((hrecovery e).trans hrollback)⟩

/-- A call whose two transactions come down to a replay that raises. -/
theorem answered_error {contention : ExceptionClass → Bool} {first : Sql (Exit α)}
    {recovery : Raised → Sql (Exit α)} {replay : Sql α} {e : Raised} (h : replay.Raises s e)
    (hcontention : contention e.cls = false)
    (hfirst : first.run s = (Exit.rollback <$> replay).run s)
    (hrecovery : ∀ e, (recovery e).run s = (Exit.rollback <$> replay).run s) :
    Answered (withRecovery contention first recovery) recovery (.error e) s := by
  obtain ⟨s₁, hraises⟩ : (Exit.rollback <$> replay).Raises s e := h.bind
  exact ⟨withRecovery_of_error (transact_of_raises ⟨s₁, hfirst.trans hraises⟩) hcontention,
    fun e => transact_of_raises ⟨s₁, (hrecovery e).trans hraises⟩⟩

/-- A passed check does not change a run. -/
theorem run_require_bind {c : Prop} [Decidable c] {e : Raised} {f : Unit → Sql α} (hc : c) :
    (Prog.require c e >>= f).run s = (f ()).run s := by
  unfold Prog.require
  rw [if_pos hc]
  rfl

/-- The configured people have one authority each. -/
theorem BoundFinanceActors.Admits.authorityMaterial_eq {actors : BoundFinanceActors}
    {objectId : Uuid} {persona source : String} {roles : List String} {a b : IdentitySnapshot}
    (ha : actors.Admits objectId persona source roles a)
    (hb : actors.Admits objectId persona source roles b) :
    authorityMaterial a = authorityMaterial b := by
  obtain ⟨hat, hao, hap, has, hai, har⟩ := ha
  obtain ⟨hbt, hbo, hbp, hbs, hbi, hbr⟩ := hb
  simp only [authorityMaterial, hat, hao, hap, has, hai, har, hbt, hbo, hbp, hbs, hbi, hbr]

/-! ### Submission -/

/-- `Key was already used for another submission`. -/
def submissionConflict : Raised :=
  ⟨.financeCommandConflict, "Key was already used for another submission"⟩

theorem lasting_submissionResult (selection : ProposalSelection) :
    Lasting (submissionResult env selection) := by
  unfold submissionResult
  split
  · exact stable_done _
  · exact (lasting_getRevision env _ _).bind fun _ => stable_done _

/-- What a committed submission left behind. -/
structure SubmissionStored (env : Env) (command : SubmitProposalCommand)
    (actor : IdentitySnapshot) (result : SubmissionResult) (receipt : SelectionReceipt)
    (s : Store) : Prop where
  row : s.selections.get? (.selectionKey (submitKey command)) = some receipt
  fingerprint : receipt.requestFingerprint = submitFingerprint env command actor
  alex : env.actors.IsAlex receipt.selection.submittedBy
  readable : (decodeReceipt env receipt).Returns s receipt s
  result : (submissionResult env receipt.selection).Returns s result s

theorem SubmissionStored.grows {command : SubmitProposalCommand} {actor : IdentitySnapshot}
    {result : SubmissionResult} {receipt : SelectionReceipt}
    (h : SubmissionStored env command actor result receipt s) (hs : Grows s s') :
    SubmissionStored env command actor result receipt s' :=
  ⟨hs.selections h.row, h.fingerprint, h.alex, (lasting_decodeReceipt env receipt).lasts hs h.readable,
    (lasting_submissionResult receipt.selection).lasts hs h.result⟩

/-- The review of a submission is read back as it was opened. -/
theorem SubmissionStored.pending {command : SubmitProposalCommand} {actor : IdentitySnapshot}
    {result : SubmissionResult} {receipt : SelectionReceipt}
    (h : SubmissionStored env command actor result receipt s) :
    ∀ review ∈ result.review, review.status = .pending ∧ result.reviewRevision = some 1 := by
  intro review hreview
  have hresult := h.result
  unfold submissionResult at hresult
  split at hresult
  · rw [(returns_done.mp hresult).1] at hreview
    cases hreview
  · rename_i reviewId hid
    obtain ⟨pending, hget, hdone⟩ := (readOnly_getRevision env reviewId 1).returns_bind.mp hresult
    obtain ⟨-, row, hrow, rfl⟩ := returns_getRevision env hget
    obtain ⟨row', hrow', hpending, -⟩ := (returns_decodeReceipt env h.readable).2.2.1.review _ hid
    obtain rfl := Option.some.inj (hrow.symm.trans hrow')
    rw [(returns_done.mp hdone).1] at hreview ⊢
    obtain rfl := Option.some.inj hreview
    exact ⟨hpending, rfl⟩

theorem publishProposal_stored {command : SubmitProposalCommand} {actor : IdentitySnapshot}
    {case : CaseInstance} {analysis : AnalysisVersion} {option : ResponseOption} {cost : Money}
    {selectionUuid reviewUuid : String} {now : Instant} {result : SubmissionResult}
    (halex : env.actors.IsAlex actor)
    (hkey : s.selections.get? (.selectionKey (submitKey command)) = none)
    (h : (publishProposal env command actor (submitKey command)
      (submitFingerprint env command actor) case analysis option cost selectionUuid reviewUuid
        now).Returns s result s') :
    ∃ receipt, SubmissionStored env command actor result receipt s' := by
  rw [publishProposal, returns_orRaise_bind] at h
  obtain ⟨proposal, -, h⟩ := h
  rw [returns_orRaise_bind] at h
  obtain ⟨selection, hselection, h⟩ := h
  obtain ⟨-, -, hsubmitter, -⟩ := ProposalSelection.validate?_spec hselection
  obtain ⟨_, s₁, hopen, h⟩ := returns_bind.mp h
  rw [returns_orRaise_bind] at h
  obtain ⟨receipt, hreceipt, h⟩ := h
  obtain ⟨hsel, -, hrkey, hprint⟩ := SelectionReceipt.validate?_spec hreceipt
  obtain ⟨published, s₂, hpublish, h⟩ := returns_bind.mp h
  obtain rfl : s' = s₂ := (lasting_submissionResult published).readOnly.eq h
  have hkey₁ : s₁.selections.get? (.selectionKey receipt.idempotencyKey) = none := by
    rw [(returns_openReview env hopen).selections_eq, hrkey]
    exact hkey
  obtain ⟨hreadable, hrow⟩ := returns_publish_receipt env hpublish hkey₁
  have hgrows : Grows s₁ s' := grows_of_uses [.newSelection, .compareAndSet, .newReview]
    (uses_publish env (by decide) (by decide) (by decide) receipt) hpublish
  obtain ⟨rfl, -⟩ := returns_publish env hpublish
  refine ⟨receipt, ?_, hprint, ?_, (lasting_decodeReceipt env receipt).lasts hgrows hreadable, h⟩
  · rw [← hrkey]
    exact hrow
  · rw [hsel, hsubmitter]
    exact halex

theorem submit_stored {command : SubmitProposalCommand} {actor : IdentitySnapshot}
    {selectionUuid reviewUuid : String} {clock : ClockReading} {result : SubmissionResult}
    (h : (submitTransaction env command actor selectionUuid reviewUuid clock).Commits s result s') :
    env.actors.IsAlex actor ∧ ∃ receipt, SubmissionStored env command actor result receipt s' := by
  unfold Commits at h
  simp only [submitTransaction, requireAlex, returns_require_bind] at h
  obtain ⟨halex, h⟩ := h
  refine ⟨halex, ?_⟩
  obtain ⟨stored, hstored, h⟩ := (readOnly_getReceiptByKey env _).returns_bind.mp h
  obtain ⟨-, rfl⟩ := returns_getReceiptByKey env hstored
  rcases hkey : s.selections.get? (.selectionKey (submitKey command)) with _ | receipt <;>
    simp only [hkey] at h
  · obtain ⟨st, -, h⟩ := (readOnly_getState env _).returns_bind.mp h
    obtain ⟨-, h⟩ := returns_require_bind.mp h
    obtain ⟨p, -, h⟩ := (readOnly_getProjection env _).returns_bind.mp h
    obtain ⟨-, h⟩ := returns_require_bind.mp h
    obtain ⟨analysisId, -, h⟩ := returns_orRaise_bind.mp h
    obtain ⟨analysis, -, h⟩ := (readOnly_getAnalysis env _).returns_bind.mp h
    obtain ⟨-, h⟩ := returns_require_bind.mp h
    obtain ⟨⟨option, predicted⟩, -, h⟩ := returns_orRaise_bind.mp h
    obtain ⟨-, h⟩ := returns_require_bind.mp h
    obtain ⟨now, -, h⟩ := returns_orRaise_bind.mp h
    obtain ⟨result', s₁, hpublish, h⟩ := returns_bind.mp h
    obtain ⟨heq, rfl⟩ := returns_done.mp h
    obtain rfl : result = result' := by injection heq
    exact publishProposal_stored halex hkey hpublish
  · obtain ⟨_, -, heq⟩ := returns_map.mp h
    cases heq

/-- Under a stored key, a submission is the replay of the receipt. -/
theorem submissionReplay_run {key fingerprint : String} {fresh : Sql (Exit SubmissionResult)}
    {receipt : SelectionReceipt} (hrow : s.selections.get? (.selectionKey key) = some receipt)
    (hreadable : (decodeReceipt env receipt).Returns s receipt s) :
    (submissionReplay env key fingerprint fresh).run s =
      (Exit.rollback <$> replaySubmission env fingerprint receipt).run s := by
  have hget : (getReceiptByKey env key).Returns s (some receipt) s := by
    rw [getReceiptByKey, returns_select_bind, hrow]
    exact returns_map.mpr ⟨receipt, hreadable, rfl⟩
  unfold submissionReplay
  rw [run_bind, show Prog.run _ s = _ from hget]

theorem SubmissionStored.replays {command : SubmitProposalCommand} {actor : IdentitySnapshot}
    {result : SubmissionResult} {receipt : SelectionReceipt}
    (h : SubmissionStored env command actor result receipt s) (halex : env.actors.IsAlex actor)
    (selectionUuid reviewUuid : String) (clock : ClockReading) :
    Replays env (fun c a => submit env c a selectionUuid reviewUuid clock) (submitRecovery env)
      .submission SubmitProposalCommand.idempotencyKey env.actors.IsAlex submissionConflict command
        result s := by
  have hrun : ∀ {c : SubmitProposalCommand} {fingerprint : String}
      {fresh : Sql (Exit SubmissionResult)}, c.idempotencyKey = command.idempotencyKey →
        (submissionReplay env (submitKey c) fingerprint fresh).run s =
          (Exit.rollback <$> replaySubmission env fingerprint receipt).run s := by
    intro c fingerprint fresh hkey
    refine submissionReplay_run ?_ h.readable
    unfold submitKey
    rw [hkey]
    exact h.row
  constructor
  · intro actor' hactor'
    have hprint : receipt.requestFingerprint = submitFingerprint env command actor' := by
      unfold submitFingerprint
      rw [h.fingerprint, hactor'.authorityMaterial_eq halex]
      rfl
    have hreplay : (replaySubmission env (submitFingerprint env command actor') receipt).Returns s
        result s := by
      rw [replaySubmission, returns_require_bind, requireAlex, returns_require_bind]
      exact ⟨hprint, h.alex, h.result⟩
    exact answered_ok hreplay ((run_require_bind hactor').trans (hrun rfl)) fun _ => hrun rfl
  · intro command' actor' hactor' hkey hother hsha
    have hprint : receipt.requestFingerprint ≠ submitFingerprint env command' actor' := by
      intro hsame
      rw [h.fingerprint, submitFingerprint, halex.authorityMaterial_eq hactor'] at hsame
      have hmaterial := hsha hsame.symm
      injection hmaterial with hcommand
      exact hother hcommand
    have hraises : (replaySubmission env (submitFingerprint env command' actor') receipt).Raises s
        submissionConflict :=
      (raises_require hprint).bind
    exact answered_error hraises rfl ((run_require_bind hactor').trans (hrun hkey))
      fun _ => hrun hkey
  · intro command' actor' hactor'
    exact withRecovery_of_error (transact_of_raises (raises_require hactor').bind) rfl

/-! ### Resolution -/

/-- `Key was already used for another review command`. -/
def resolutionConflict : Raised :=
  ⟨.financeCommandConflict, "Key was already used for another review command"⟩

/-- What a committed resolution left behind. -/
structure ResolutionStored (env : Env) (command : ResolveFinanceCommand)
    (actor : IdentitySnapshot) (result : ResolutionResult) (row : FinanceReviewRow)
    (s : Store) : Prop where
  stored : s.reviews.get? (.reviewKey (resolveKey command)) = some row
  fingerprint : row.requestFingerprint = resolveFingerprint env command actor
  alex : env.actors.IsAlex row.review.submittedBy
  taylor : ∃ reviewer, row.review.reviewedBy = some reviewer ∧ env.actors.IsTaylor reviewer
  readable : (reviewFromRow env row).Returns s (row.review, row.revision) s
  result : result = { review := row.review, reviewRevision := row.revision }

theorem ResolutionStored.grows {command : ResolveFinanceCommand} {actor : IdentitySnapshot}
    {result : ResolutionResult} {row : FinanceReviewRow}
    (h : ResolutionStored env command actor result row s) (hs : Grows s s') :
    ResolutionStored env command actor result row s' :=
  ⟨hs.reviews h.stored, h.fingerprint, h.alex, h.taylor,
    (lasting_reviewFromRow env row).lasts hs h.readable, h.result⟩

theorem resolve_stored {command : ResolveFinanceCommand} {actor : IdentitySnapshot}
    {clock : ClockReading} {result : ResolutionResult}
    (h : (resolveTransaction env command actor clock).Commits s result s') :
    env.actors.IsTaylor actor ∧ ∃ row, ResolutionStored env command actor result row s' := by
  unfold Commits at h
  simp only [resolveTransaction, requireTaylor, returns_require_bind] at h
  obtain ⟨htaylor, h⟩ := h
  refine ⟨htaylor, ?_⟩
  obtain ⟨stored, hstored, h⟩ := (readOnly_getReviewByKey env _).returns_bind.mp h
  obtain ⟨-, rfl⟩ := returns_getReviewByKey env hstored
  rcases hkey : s.reviews.get? (.reviewKey (resolveKey command)) with _ | stored <;>
    simp only [hkey, Option.map_none, Option.map_some] at h
  · obtain ⟨⟨review, revision⟩, -, h⟩ := (readOnly_getLatest env _).returns_bind.mp h
    obtain ⟨halex, h⟩ := returns_require_bind.mp h
    obtain ⟨st, -, h⟩ := (readOnly_getState env _).returns_bind.mp h
    obtain ⟨selection, -, h⟩ := returns_orRaise_bind.mp h
    obtain ⟨-, h⟩ := returns_require_bind.mp h
    obtain ⟨now, -, h⟩ := returns_orRaise_bind.mp h
    rw [returns_ofExcept_bind] at h
    obtain ⟨resolved, hresolved, h⟩ := h
    obtain ⟨⟨-, -, hsubmitter, -⟩, -, -, -, hby⟩ := resolveFinanceReview_spec hresolved
    obtain ⟨token, s₁, hguard, h⟩ := returns_bind.mp h
    obtain ⟨-, -, rfl⟩ := returns_guardCurrent env hguard
    obtain ⟨p, s₂, happend, h⟩ := returns_bind.mp h
    obtain ⟨heq, rfl⟩ := returns_done.mp h
    obtain ⟨hbound, row, hrow, rfl, hprint, rfl⟩ := returns_appendReview_row env happend hkey
    have hgrows := grows_of_uses [.newReview] (uses_appendReview env (by decide) _ _ _ _) happend
    have hreadable : (reviewFromRow env row).Returns _ (row.review, row.revision) _ :=
      (readOnly_requireBoundAnalysis env row.review).returns_bind.mpr
        ⟨(), hbound, returns_done.mpr ⟨rfl, rfl⟩⟩
    refine ⟨row, hrow, hprint, ?_, ⟨actor, hby, htaylor⟩,
      (lasting_reviewFromRow env row).lasts hgrows hreadable, ?_⟩
    · rw [hsubmitter]
      exact halex
    · injection heq
  · obtain ⟨_, -, heq⟩ := returns_map.mp h
    cases heq

/-- Under a stored key, a resolution is the replay of the revision. -/
theorem resolutionReplay_run {key fingerprint : String} {fresh : Sql (Exit ResolutionResult)}
    {row : FinanceReviewRow} (hrow : s.reviews.get? (.reviewKey key) = some row)
    (hreadable : (reviewFromRow env row).Returns s (row.review, row.revision) s) :
    (resolutionReplay env key fingerprint fresh).run s =
      (Exit.rollback <$> replayResolution env fingerprint
        (row.review, row.revision, row.requestFingerprint)).run s := by
  have hget : (getReviewByKey env key).Returns s
      (some (row.review, row.revision, row.requestFingerprint)) s := by
    rw [getReviewByKey, returns_select_bind, hrow]
    exact (readOnly_reviewFromRow env row).returns_bind.mpr
      ⟨_, hreadable, returns_done.mpr ⟨rfl, rfl⟩⟩
  unfold resolutionReplay
  rw [run_bind, show Prog.run _ s = _ from hget]

theorem ResolutionStored.replays {command : ResolveFinanceCommand} {actor : IdentitySnapshot}
    {result : ResolutionResult} {row : FinanceReviewRow}
    (h : ResolutionStored env command actor result row s) (htaylor : env.actors.IsTaylor actor)
    (clock : ClockReading) :
    Replays env (fun c a => resolve env c a clock) (resolveRecovery env) .resolution
      ResolveFinanceCommand.idempotencyKey env.actors.IsTaylor resolutionConflict command result
        s := by
  have hrun : ∀ {c : ResolveFinanceCommand} {fingerprint : String}
      {fresh : Sql (Exit ResolutionResult)}, c.idempotencyKey = command.idempotencyKey →
        (resolutionReplay env (resolveKey c) fingerprint fresh).run s =
          (Exit.rollback <$> replayResolution env fingerprint
            (row.review, row.revision, row.requestFingerprint)).run s := by
    intro c fingerprint fresh hkey
    refine resolutionReplay_run ?_ h.readable
    unfold resolveKey
    rw [hkey]
    exact h.stored
  constructor
  · intro actor' hactor'
    have hprint : row.requestFingerprint = resolveFingerprint env command actor' := by
      unfold resolveFingerprint
      rw [h.fingerprint, hactor'.authorityMaterial_eq htaylor]
      rfl
    have hreplay : (replayResolution env (resolveFingerprint env command actor')
        (row.review, row.revision, row.requestFingerprint)).Returns s result s := by
      obtain ⟨reviewer, hreviewer, hbound⟩ := h.taylor
      unfold replayResolution
      rw [returns_require_bind, requireAlex, returns_require_bind, returns_orRaise_bind]
      refine ⟨hprint, h.alex, reviewer, hreviewer, ?_⟩
      rw [requireTaylor, returns_require_bind]
      exact ⟨hbound, returns_done.mpr ⟨h.result, rfl⟩⟩
    exact answered_ok hreplay ((run_require_bind hactor').trans (hrun rfl)) fun _ => hrun rfl
  · intro command' actor' hactor' hkey hother hsha
    have hprint : row.requestFingerprint ≠ resolveFingerprint env command' actor' := by
      intro hsame
      rw [h.fingerprint, resolveFingerprint, htaylor.authorityMaterial_eq hactor'] at hsame
      have hmaterial := hsha hsame.symm
      injection hmaterial with hcommand
      exact hother hcommand
    have hraises : (replayResolution env (resolveFingerprint env command' actor')
        (row.review, row.revision, row.requestFingerprint)).Raises s resolutionConflict :=
      (raises_require hprint).bind
    exact answered_error hraises rfl ((run_require_bind hactor').trans (hrun hkey))
      fun _ => hrun hkey
  · intro command' actor' hactor'
    exact withRecovery_of_error (transact_of_raises (raises_require hactor').bind) rfl

/-! ### Finalization -/

/-- `Key was used for another finalization`. -/
def finalizationConflict : Raised :=
  ⟨.financeFinalizationConflict, "Key was used for another finalization"⟩

/-- What a committed finalization left behind. -/
structure FinalizationStored (env : Env) (command : FinalizeProposalCommand)
    (actor : IdentitySnapshot) (decision : Decision) (s : Store) : Prop where
  stored : decision ∈ s.decisions
  key : decision.idempotencyKey = finalizeKey command
  fingerprint : decision.requestFingerprint = finalizationFingerprint env command actor
  alex : env.actors.IsAlex decision.actor
  submitter : ∀ selection ∈ decision.proposalApproval.map ProposalApprovalEvidence.selection,
    env.actors.IsAlex selection.submittedBy
  readable : Intact env s decision

theorem finalize_stored {command : FinalizeProposalCommand} {actor : IdentitySnapshot}
    {decisionUuid eventUuid : String} {clock : ClockReading} {decision : Decision}
    (hs : AllIntact env s)
    (h : (finalizeTransaction env command actor decisionUuid eventUuid clock).Commits s decision
      s') : env.actors.IsAlex actor ∧ FinalizationStored env command actor decision s' := by
  have halex : env.actors.IsAlex actor := by
    have hfirst := h
    unfold Commits finalizeTransaction requireAlex at hfirst
    exact (returns_require_bind.mp hfirst).1
  have hf := returns_finalizeTransaction env h
  obtain ⟨hkey, hprint⟩ := finalizeTransaction_request env h
  obtain ⟨st, hdecides⟩ := hf.decides
  obtain ⟨s₁, hj, hdecisions, hsat, hout⟩ := hf.journals
  have howned : Owned s₁ := ⟨by rw [hsat, hdecisions]; exact hs.owned.satisfactions,
    by rw [hout, hdecisions]; exact hs.owned.events⟩
  have hmem : decision ∈ s'.decisions := by
    obtain ⟨row, satisfactions, outbox, -, -, -, rfl⟩ := hj.stores.effect
    exact Table.mem_add_self hj.stores.free
  refine ⟨halex, hmem, hkey, hprint, hdecides.actor, fun selection hselection => ?_,
    (hj.intact howned).2⟩
  obtain ⟨evidence, hevidence, rfl⟩ := Option.map_eq_some_iff.mp hselection
  rcases hkind : decision.kind
  · obtain ⟨evidence', hevidence', hof, -⟩ := hdecides.approval hkind
    obtain rfl := Option.some.inj (hevidence.symm.trans hevidence')
    exact hof.alex
  · rw [decision.proposalApproval_eq_none hkind] at hevidence
    cases hevidence

theorem FinalizationStored.keeps {command : FinalizeProposalCommand} {actor : IdentitySnapshot}
    {decision : Decision} (h : FinalizationStored env command actor decision s)
    (hs : Keeps s s') : FinalizationStored env command actor decision s' :=
  ⟨hs.decision h.stored, h.key, h.fingerprint, h.alex, h.submitter,
    h.readable.keeps h.stored hs⟩

theorem FinalizationStored.replays {command : FinalizeProposalCommand} {actor : IdentitySnapshot}
    {decision : Decision} (h : FinalizationStored env command actor decision s)
    (halex : env.actors.IsAlex actor) (decisionUuid eventUuid : String) (clock : ClockReading) :
    Replays env (fun c a => finalize env c a decisionUuid eventUuid clock) (finalizeRecovery env)
      .finalization FinalizeProposalCommand.idempotencyKey env.actors.IsAlex finalizationConflict
        command decision s := by
  have hget : ∀ {c : FinalizeProposalCommand}, c.idempotencyKey = command.idempotencyKey →
      (getDecisionByKey env (finalizeKey c)).run s = (.ok (some decision), s) := by
    intro c hkey
    have hstored := h.readable.getDecisionByKey h.stored
    rw [h.key] at hstored
    unfold finalizeKey at hstored ⊢
    rw [hkey]
    exact hstored
  have hfirst : ∀ {c : FinalizeProposalCommand} {a : IdentitySnapshot}, env.actors.IsAlex a →
      c.idempotencyKey = command.idempotencyKey →
        (finalizeTransaction env c a decisionUuid eventUuid clock).run s =
          (Exit.rollback <$> returnFinalized env (finalizationFingerprint env c a) decision).run
            s := by
    intro c a ha hkey
    refine (run_require_bind ha).trans ?_
    rw [run_bind, hget hkey]
  have hrecovery : ∀ {c : FinalizeProposalCommand} {a : IdentitySnapshot} (e : Raised),
      env.actors.IsAlex a → c.idempotencyKey = command.idempotencyKey →
        (finalizeRecovery env c a e).run s =
          (Exit.rollback <$> returnFinalized env (finalizationFingerprint env c a) decision).run
            s := by
    intro c a e ha hkey
    refine (run_require_bind ha).trans ?_
    rw [run_bind, hget hkey]
  constructor
  · intro actor' hactor'
    have hprint : decision.requestFingerprint = finalizationFingerprint env command actor' := by
      unfold finalizationFingerprint
      rw [h.fingerprint, hactor'.authorityMaterial_eq halex]
      rfl
    have hreplay : (returnFinalized env (finalizationFingerprint env command actor')
        decision).Returns s decision s := by
      rw [returnFinalized, returns_require_bind, requireAlex, returns_require_bind,
        requireAlexSelection, returns_require_bind]
      exact ⟨hprint, h.alex, h.submitter, returns_done.mpr ⟨rfl, rfl⟩⟩
    exact answered_ok hreplay (hfirst hactor' rfl) fun e => hrecovery e hactor' rfl
  · intro command' actor' hactor' hkey hother hsha
    have hprint : decision.requestFingerprint ≠ finalizationFingerprint env command' actor' := by
      intro hsame
      rw [h.fingerprint, finalizationFingerprint, halex.authorityMaterial_eq hactor'] at hsame
      have hmaterial := hsha hsame.symm
      injection hmaterial with hcommand
      exact hother hcommand
    have hraises : (returnFinalized env (finalizationFingerprint env command' actor')
        decision).Raises s finalizationConflict :=
      (raises_require hprint).bind
    exact answered_error hraises rfl (hfirst hactor' hkey) fun e => hrecovery e hactor' hkey
  · intro command' actor' hactor'
    exact withRecovery_of_error (transact_of_raises (raises_require hactor').bind) rfl

/-! ### The result -/

/-- Every committed command of the independent workflow is replayed at every
later moment: its key is answered with its result, or a refusal, and no row
changes. -/
theorem finance_replays {s₀ s₁ : Store} (before : Run (Transaction.program env) Store.empty s₀)
    (later : Run (Transaction.program env) s₁ s) :
    (∀ command actor selectionUuid reviewUuid clock result,
      (submitTransaction env command actor selectionUuid reviewUuid clock).Commits s₀ result s₁ →
        (∀ review ∈ result.review, review.status = .pending ∧ result.reviewRevision = some 1) ∧
        ∀ selectionUuid' reviewUuid' clock',
          Replays env (fun c a => submit env c a selectionUuid' reviewUuid' clock')
            (submitRecovery env) .submission SubmitProposalCommand.idempotencyKey
              env.actors.IsAlex submissionConflict command result s) ∧
    (∀ command actor clock result,
      (resolveTransaction env command actor clock).Commits s₀ result s₁ → ∀ clock',
        Replays env (fun c a => resolve env c a clock') (resolveRecovery env) .resolution
          ResolveFinanceCommand.idempotencyKey env.actors.IsTaylor resolutionConflict command
            result s) ∧
    ∀ command actor decisionUuid eventUuid clock decision,
      (finalizeTransaction env command actor decisionUuid eventUuid clock).Commits s₀ decision s₁ →
        ∀ decisionUuid' eventUuid' clock',
          Replays env (fun c a => finalize env c a decisionUuid' eventUuid' clock')
            (finalizeRecovery env) .finalization FinalizeProposalCommand.idempotencyKey
              env.actors.IsAlex finalizationConflict command decision s := by
  refine ⟨?_, ?_, ?_⟩
  · intro command actor selectionUuid reviewUuid clock result hcommit
    obtain ⟨halex, receipt, hstored⟩ := submit_stored hcommit
    have hnow := hstored.grows (Run.grows later)
    exact ⟨hstored.pending, fun _ _ _ => hnow.replays halex _ _ _⟩
  · intro command actor clock result hcommit clock'
    obtain ⟨htaylor, row, hstored⟩ := resolve_stored hcommit
    exact (hstored.grows (Run.grows later)).replays htaylor clock'
  · intro command actor decisionUuid eventUuid clock decision hcommit _ _ _
    obtain ⟨halex, hstored⟩ := finalize_stored (allIntact_of_run before) hcommit
    exact (hstored.keeps (keeps_of_run later)).replays halex _ _ _

/-- The sample case is analyzed. -/
def sampleAnalyzed : Store :=
  history (Transaction.program sampleEnv) (sampleTransactions.take 2) Store.empty

/-- The three commands of the sample case commit one after the other. -/
theorem sample_commits :
    ∃ submitted s₁ resolved s₂ decision s₃,
      (submitTransaction sampleEnv sampleSubmit sampleAlex "1" "1" (some 0)).Commits sampleAnalyzed
        submitted s₁ ∧
      (resolveTransaction sampleEnv sampleResolve sampleTaylor (some 0)).Commits s₁ resolved s₂ ∧
      (finalizeTransaction sampleEnv sampleFinalize sampleAlex "1" "1" (some 0)).Commits s₂ decision
        s₃ := by
  have hall : (submitTransaction sampleEnv sampleSubmit sampleAlex "1" "1" (some 0)).checkCommitted
      sampleAnalyzed (fun _ s₁ =>
        (resolveTransaction sampleEnv sampleResolve sampleTaylor (some 0)).checkCommitted s₁
          fun _ s₂ =>
            (finalizeTransaction sampleEnv sampleFinalize sampleAlex "1" "1"
              (some 0)).checkCommitted s₂ fun _ _ => true) = true := by
    decide +kernel
  obtain ⟨submitted, s₁, h₁, hall⟩ := exists_of_checkCommitted hall
  obtain ⟨resolved, s₂, h₂, hall⟩ := exists_of_checkCommitted hall
  obtain ⟨decision, s₃, h₃, -⟩ := exists_of_checkCommitted hall
  exact ⟨submitted, s₁, resolved, s₂, decision, s₃, h₁, h₂, h₃⟩

theorem sampleAnalyzed_run : Run (Transaction.program sampleEnv) Store.empty sampleAnalyzed :=
  Run.history _ _ _

/-- The submission, the resolution and the finalization of the sample case are
replayed at its end. -/
theorem finance_replays_sample :
    ∃ s submitted resolved decision,
      Answered (submit sampleEnv sampleSubmit sampleAlex "2" "2" (some 1))
        (submitRecovery sampleEnv sampleSubmit sampleAlex) (.ok submitted) s ∧
      Answered (resolve sampleEnv sampleResolve sampleTaylor (some 1))
        (resolveRecovery sampleEnv sampleResolve sampleTaylor) (.ok resolved) s ∧
      Answered (finalize sampleEnv sampleFinalize sampleAlex "2" "2" (some 1))
        (finalizeRecovery sampleEnv sampleFinalize sampleAlex) (.ok decision) s := by
  obtain ⟨submitted, s₁, resolved, s₂, decision, s₃, h₁, h₂, h₃⟩ := sample_commits
  have hs₁ := sampleAnalyzed_run.tail ⟨.submit sampleSubmit sampleAlex "1" "1" (some 0), (),
    commits_effect.mpr ⟨submitted, h₁⟩⟩
  have hstep₂ : Step (Transaction.program sampleEnv) s₁ s₂ :=
    ⟨.resolve sampleResolve sampleTaylor (some 0), (), commits_effect.mpr ⟨resolved, h₂⟩⟩
  have hstep₃ : Step (Transaction.program sampleEnv) s₂ s₃ :=
    ⟨.finalize sampleFinalize sampleAlex "1" "1" (some 0), (), commits_effect.mpr ⟨decision, h₃⟩⟩
  obtain ⟨hsubmit, -, -⟩ := finance_replays sampleAnalyzed_run (.head hstep₂ (.single hstep₃))
  obtain ⟨-, hresolve, -⟩ := finance_replays hs₁ (.single hstep₃)
  obtain ⟨-, -, hfinalize⟩ := finance_replays (hs₁.tail hstep₂) .refl
  exact ⟨s₃, submitted, resolved, decision,
    ((hsubmit _ _ _ _ _ _ h₁).2 "2" "2" (some 1)).same sampleAlex (by decide),
    (hresolve _ _ _ _ h₂ (some 1)).same sampleTaylor (by decide),
    (hfinalize _ _ _ _ _ _ h₃ "2" "2" (some 1)).same sampleAlex (by decide)⟩

/-- Another person repeating Alex's submission is denied, without a conflict. -/
theorem finance_replay_denied :
    ∃ submitted s₁,
      Run (Transaction.program sampleEnv) Store.empty sampleAnalyzed ∧
      (submitTransaction sampleEnv sampleSubmit sampleAlex "1" "1" (some 0)).Commits sampleAnalyzed
        submitted s₁ ∧
      submit sampleEnv sampleSubmit sampleTaylor "2" "2" (some 1) s₁ =
        (.error permissionDenied, s₁) ∧
      permissionDenied.cls ≠ submissionConflict.cls := by
  obtain ⟨submitted, s₁, -, -, -, -, h₁, -⟩ := sample_commits
  refine ⟨submitted, s₁, sampleAnalyzed_run, h₁, ?_, by decide⟩
  exact withRecovery_of_error (transact_of_raises (raises_require (by decide)).bind) rfl

end SupplyResponse
