/-
Sending the supplier emails, in any interleaving with everything else.

* `Mailroom` — the store, the correlation ids that were drawn, and what was handed
  to the provider, in that order;
* `sendEmail` — `send`: a correlation id, the claim, the submission, its outcome;
* `MailStep` — what one action of a call may do to the emails, by the id it owns;
* `MailInv` — what the provider may have accepted is the current content of its
  Decision, and was the only such submission;
* `sendEmail_safe` — both over every interleaving, and of every single submission.
-/
import SupplyResponse.Runs.Mailing
import SupplyResponse.Transact.Ownership

namespace SupplyResponse

open Transact Transact.Prog
open Keyed (keys)

variable {env : Env} {s s' : Store} {d : String} {content : SupplierEmailRevision}
  {delivery : SupplierEmailDelivery}

/-! ### The email of a Decision -/

/-- Two Decisions do not share an email. -/
theorem CurrentEmail.decision_unique {d' : String} {content' : SupplierEmailRevision}
    {delivery' : SupplierEmailDelivery} (h : CurrentEmail s d content delivery)
    (h' : CurrentEmail s d' content' delivery') (hemail : delivery.emailId = delivery'.emailId) :
    d = d' := by
  have hrow := h.row
  rw [hemail] at hrow
  obtain rfl := Option.some.inj (hrow.symm.trans h'.row)
  exact h.decisionId.symm.trans h'.decisionId

/-- Only its own delivery and its own revisions matter to an email. -/
theorem CurrentEmail.congr (h : CurrentEmail s d content delivery)
    (hdelivery : deliveryOf s' d = some delivery)
    (hlatest : latestEmail s' delivery.emailId d = latestEmail s delivery.emailId d) :
    CurrentEmail s' d content delivery :=
  ⟨hdelivery, hlatest.trans h.latest, h.agrees, h.reviewed⟩

theorem deliveryOf_modify_of_ne {e : String} {f : SupplierEmailDelivery → SupplierEmailDelivery}
    {hf : ∀ r, Key.delivery e ∈ keys r → keys (f r) = keys r} (h : CurrentEmail s d content delivery)
    (hne : delivery.emailId ≠ e) (heq : s'.deliveries = s.deliveries.modify (.delivery e) f hf) :
    deliveryOf s' d = some delivery := by
  unfold deliveryOf
  rw [heq]
  exact Table.get?_modify_of_notMem h.stored (by simp [Ne.symm hne])

theorem deliveryOf_modify_self {f : SupplierEmailDelivery → SupplierEmailDelivery}
    {hf : ∀ r, Key.delivery delivery.emailId ∈ keys r → keys (f r) = keys r}
    (h : CurrentEmail s d content delivery)
    (heq : s'.deliveries = s.deliveries.modify (.delivery delivery.emailId) f hf) :
    deliveryOf s' d = some (f delivery) := by
  have hk : Key.delivery delivery.emailId ∈ keys delivery := List.mem_cons_self ..
  unfold deliveryOf
  rw [heq, Table.get?_modify, show s.deliveries.get? (.deliveryDecision d) = some delivery from
    h.stored, Option.map_some, if_pos hk]

/-- Rewriting the delivery of an email, with the reviewed revision as it was. -/
theorem CurrentEmail.rewrite (changed : SupplierEmailDelivery)
    (h : CurrentEmail s d content delivery)
    (hreviewed : changed.reviewedRevision = delivery.reviewedRevision)
    (hdeliveries : s'.deliveries = s.deliveries.modify (.delivery delivery.emailId)
      changed.rewritten (fun _ _ => rfl))
    (hrevisions : s'.emailRevisions = s.emailRevisions) :
    CurrentEmail s' d content (changed.rewritten delivery) := by
  refine ⟨deliveryOf_modify_self h hdeliveries, ?_, ?_, ?_⟩
  · unfold latestEmail
    rw [hrevisions]
    exact h.latest
  · exact ⟨h.agrees.1, h.agrees.2.1, fun n hn => h.agrees.2.2 n (hreviewed ▸ hn)⟩
  · exact fun hn => h.reviewed (hreviewed ▸ hn)

theorem latestEmail_add_of_ne {revision : SupplierEmailRevision} {e : String}
    (hne : revision.decisionId ≠ d)
    (heq : s'.emailRevisions = s.emailRevisions.add revision) :
    latestEmail s' e d = latestEmail s e d := by
  unfold latestEmail
  rw [heq]
  exact Table.latest_add_of_not (by simp [hne])

theorem latestEmail_modify_of_ne {reviewed : SupplierEmailRevision} {e e' : String} {n : Nat}
    (hne : e ≠ e')
    (heq : s'.emailRevisions = s.emailRevisions.modify (.emailRevision e' n) reviewed.reviewedAs
      (fun _ _ => rfl)) : latestEmail s' e d = latestEmail s e d := by
  unfold latestEmail Table.latest
  rw [heq, Table.filter_modify_of_notMem]
  · exact fun _ _ => rfl
  · intro r _ hr hk
    obtain ⟨hemail, -⟩ := of_decide_eq_true hr
    simp only [keys_supplierEmailRevision, List.mem_singleton, Key.emailRevision.injEq] at hk
    exact hne (hemail.symm.trans hk.1.symm)

/-! ### What the other transactions do -/

/-- The transaction neither claims a submission nor records its outcome. -/
def Transaction.SubmitsNothing (t : Transaction) : Prop :=
  .claimDelivery ∉ t.kinds ∧ .moveDelivery ∉ t.kinds

/-- The steps of the emails but a claim and an outcome. -/
inductive EditStep (s s' : Store) : Prop
  | quiet (same : SameEmails s s')
  | created (decisionId : String) (revision : SupplierEmailRevision)
    (delivery : SupplierEmailDelivery) (h : CreatesEmail s decisionId revision delivery s')
  | edited (decisionId : String) (changed : SupplierEmailRevision)
    (h : EditsEmail s decisionId changed s')
  | reviewed (decisionId : String) (previous : SupplierEmailRevision)
    (delivery : SupplierEmailDelivery) (actor : IdentitySnapshot) (now : Instant)
    (h : ReviewsEmail s decisionId previous delivery actor now s')

theorem editStep_of_commits {t : Transaction} {u : Unit} (ht : t.SubmitsNothing)
    (hc : (t.program env).Commits s u s') : EditStep s s' := by
  have hquiet : (∀ kind ∈ t.kinds, kind ∉ emailKinds) → EditStep s s' := fun hk =>
    .quiet (relates_of_commits SameEmails.refl SameEmails.trans
      (fun hkind hw => hw.sameEmails (hk _ hkind)) hc)
  cases t
  case getEmail config decisionId now =>
    obtain ⟨state, hcommits⟩ := commits_effect.mp hc
    exact .created decisionId state.1 state.2 (commits_getEmail env config hcommits)
  case saveEmail config decisionId revision subject body actor now =>
    obtain ⟨state, hcommits⟩ := commits_effect.mp hc
    exact .edited decisionId state.1 (commits_saveEmail env config hcommits)
  case reviewEmail config decisionId revision actor now =>
    obtain ⟨state, hcommits⟩ := commits_effect.mp hc
    obtain ⟨previous, delivery, -, h⟩ := commits_reviewEmail env config hcommits
    exact .reviewed decisionId previous delivery actor now h
  case claimEmail => exact absurd (List.mem_cons_of_mem _ (List.mem_cons_self ..)) ht.1
  case recordOutcome => exact absurd (List.mem_cons_self ..) ht.2
  case recordCheck => exact absurd (List.mem_cons_self ..) ht.2
  all_goals
    refine hquiet ?_
    dsimp only [Transaction.kinds]
    decide

/-- Content that is being submitted, or may have been, is neither edited nor reviewed again. -/
theorem EditStep.keeps (h : EditStep s s') (hcurrent : CurrentEmail s d content delivery)
    (hclosed : ¬delivery.Editable) (hreviewed : content.reviewedAt.isSome) :
    CurrentEmail s' d content delivery := by
  cases h with
  | quiet same => exact hcurrent.of_same same.symm
  | created d' revision _ h =>
    have hne : d' ≠ d := by
      rintro rfl
      exact absurd (h.absent.symm.trans hcurrent.stored) (by simp)
    refine hcurrent.congr ?_ (latestEmail_add_of_ne (h.first.1 ▸ hne) h.revisions)
    unfold deliveryOf
    rw [h.deliveries]
    exact Table.get?_add_of_some hcurrent.stored
  | edited d' changed h =>
    obtain ⟨previous, delivery', hcurrent', heditable, -, -, hdeliveries⟩ := h.current
    have hne : d ≠ d' := by
      rintro rfl
      obtain ⟨-, rfl⟩ := hcurrent.unique hcurrent'
      exact hclosed heditable
    have hemail : delivery.emailId ≠ delivery'.emailId := fun he =>
      hne (hcurrent.decision_unique hcurrent' he)
    exact hcurrent.congr (deliveryOf_modify_of_ne hcurrent hemail hdeliveries)
      (latestEmail_add_of_ne (h.unreviewed.1 ▸ hne.symm) h.revisions)
  | reviewed d' previous delivery' actor now h =>
    have hne : d ≠ d' := by
      rintro rfl
      obtain ⟨rfl, -⟩ := hcurrent.unique h.current
      rw [h.unreviewed] at hreviewed
      cases hreviewed
    have hemail : delivery.emailId ≠ delivery'.emailId := fun he =>
      hne (hcurrent.decision_unique h.current he)
    exact hcurrent.congr (deliveryOf_modify_of_ne hcurrent hemail h.deliveries)
      (latestEmail_modify_of_ne (h.current.agrees.1.symm ▸ hemail) h.revisions)

/-! ### The mailroom -/

/-- What is handed to the provider under a correlation id, and how `send_message` ends. -/
structure Submission where
  decisionId : String
  correlationId : String
  content : SupplierEmailRevision
  outcome : SendOutcome

structure Mailroom where
  store : Store
  drawn : ℕ
  sent : List Submission

namespace Mailroom

def empty : Mailroom := ⟨Store.empty, 0, []⟩

def withStore (w : Mailroom) (s : Store) : Mailroom := { w with store := s }

theorem withStore_store (w : Mailroom) : w.withStore w.store = w := rfl

end Mailroom

/-- The provider refused the message: `GraphMailError`, and no uncertain one. -/
def SendOutcome.Refused : SendOutcome → Prop
  | .failed _ => True
  | _ => False

instance : DecidablePred SendOutcome.Refused
  | .accepted => inferInstanceAs (Decidable False)
  | .uncertain _ => inferInstanceAs (Decidable False)
  | .failed _ => inferInstanceAs (Decidable True)

/-- A procedure on the store of the mailroom. -/
abbrev onStore {α : Type} (p : Process Store Raised α) : Process Mailroom Raised α :=
  p.onPart Mailroom.store Mailroom.withStore

/-- What a call of `send` is given, with the readings of its clock and the way in which
`send_message` ends. -/
structure SendRequest where
  config : MailConfig
  decisionId : String
  revision : Nat
  actor : IdentitySnapshot
  claimedAt : Instant
  recordedAt : Instant
  outcome : SendOutcome

section

variable (env : Env) (ids : ℕ → String)

/-- `str(uuid4())`: the ids, in the order in which they are drawn. -/
def drawId : Process Mailroom Raised String :=
  .act (fun w => (ids w.drawn, { w with drawn := w.drawn + 1 })) .done

/-- `send_message`. -/
def submitMail (m : Submission) : Process Mailroom Raised Unit :=
  .act (fun w => ((), { w with sent := w.sent ++ [m] })) .done

/-- The part of `send` behind the submission. -/
def recordStage (m : Submission) (now : Instant) : Process Mailroom Raised EmailState :=
  onStore (.transaction (recordOutcome m.decisionId m.correlationId now m.outcome))

/-- The part of `send` behind the claim. -/
def submitStage (r : SendRequest) (correlationId : String) (content : SupplierEmailRevision) :
    Process Mailroom Raised EmailState := do
  let m : Submission := ⟨r.decisionId, correlationId, content, r.outcome⟩
  submitMail m
  recordStage m r.recordedAt

/-- The part of `send` behind the correlation id. -/
def claimStage (r : SendRequest) (correlationId : String) : Process Mailroom Raised EmailState := do
  let claim ← onStore (.transaction
    (claimEmail env r.config r.decisionId r.revision r.actor correlationId r.claimedAt))
  match claim with
  | .claimed content => submitStage r correlationId content
  | .current state => pure state
  | .lost => onStore (.transaction (canonicalEmail r.decisionId))

/-- `send`. -/
def sendEmail (r : SendRequest) : Process Mailroom Raised EmailState := do
  let correlationId ← drawId ids
  claimStage env r correlationId

end

/-! ### One action -/

/-- The email of a Decision is being submitted under a correlation id. -/
def Submitting (s : Store) (d : String) (content : SupplierEmailRevision) (k : String) : Prop :=
  ∃ delivery, CurrentEmail s d content delivery ∧ content.reviewedBy.isSome ∧
    delivery.reviewedRevision = some content.revision ∧ delivery.correlationId = some k ∧
    delivery.sendStatus = .submitting

/-- A submission that the provider may have accepted is the current email of its Decision,
and nothing else can be submitted for that. -/
def Standing (s : Store) (m : Submission) : Prop :=
  ∃ delivery, CurrentEmail s m.decisionId m.content delivery ∧ m.content.reviewedBy.isSome ∧
    delivery.correlationId = some m.correlationId ∧ delivery.Unresolved

variable {ids : ℕ → String} {o : Option ℕ} {w w' : Mailroom}

/-- Nothing was submitted under the id. -/
def Unsent (ids : ℕ → String) (w : Mailroom) (i : ℕ) : Prop :=
  ∀ m ∈ w.sent, m.correlationId ≠ ids i

/-- What an action does of a call that owns the correlation id of index `o`, or none. -/
structure MailStep (ids : ℕ → String) (o : Option ℕ) (w w' : Mailroom) : Prop where
  drawn : w.drawn ≤ w'.drawn
  sent : w'.sent = w.sent ∨ ∃ m i, o = some i ∧ m.correlationId = ids i ∧ Unsent ids w i ∧
    w'.sent = w.sent ++ [m] ∧ Submitting w.store m.decisionId m.content m.correlationId
  keeps : ∀ d content delivery, CurrentEmail w.store d content delivery →
    content.reviewedBy.isSome → delivery.Unresolved →
      CurrentEmail w'.store d content delivery ∨
        ∃ m ∈ w.sent, delivery.correlationId = some m.correlationId ∧
          ∃ changed, CurrentEmail w'.store d content changed ∧
            changed.correlationId = delivery.correlationId ∧
            (changed.Unresolved ∨ m.outcome.Refused)

theorem SupplierEmailRevision.reviewedAt_isSome {r : SupplierEmailRevision}
    (h : r.reviewedBy.isSome) : r.reviewedAt.isSome := by
  have hboth := r.valid.2.2.2.2.2.2.2.2
  cases hat : r.reviewedAt with
  | some at' => rfl
  | none =>
    have hnone := hboth.mpr (by rw [hat]; rfl)
    rw [Option.isNone_iff_eq_none] at hnone
    rw [hnone] at h
    cases h

theorem SupplierEmailDelivery.Unresolved.not_editable {delivery : SupplierEmailDelivery}
    (h : delivery.Unresolved) : ¬delivery.Editable := by
  rintro (hdraft | ⟨hfailed, -⟩)
  · rw [SupplierEmailDelivery.Unresolved, hdraft] at h
    exact absurd h (by decide)
  · rw [SupplierEmailDelivery.Unresolved, hfailed] at h
    exact absurd h (by decide)

theorem Submitting.unresolved {delivery : SupplierEmailDelivery}
    (h : delivery.sendStatus = .submitting) : delivery.Unresolved := by
  rw [SupplierEmailDelivery.Unresolved, h]
  decide

/-- The store is as it was. -/
theorem mailStep_of_store (hstore : w'.store = w.store) (hdrawn : w.drawn ≤ w'.drawn)
    (hsent : w'.sent = w.sent ∨ ∃ m i, o = some i ∧ m.correlationId = ids i ∧ Unsent ids w i ∧
      w'.sent = w.sent ++ [m] ∧ Submitting w.store m.decisionId m.content m.correlationId) :
    MailStep ids o w w' :=
  ⟨hdrawn, hsent, fun _ _ _ hcurrent _ _ => .inl (hstore ▸ hcurrent)⟩

theorem mailStep_refl : MailStep ids o w w := mailStep_of_store rfl le_rfl (.inl rfl)

theorem mailStep_edit (h : EditStep w.store s') : MailStep ids o w (w.withStore s') :=
  ⟨le_rfl, .inl rfl, fun _ _ _ hcurrent hreviewed hopen =>
    .inl (h.keeps hcurrent hopen.not_editable
      (SupplierEmailRevision.reviewedAt_isSome hreviewed))⟩

/-- The rewriting of one delivery leaves the other emails alone. -/
theorem CurrentEmail.keeps_rewrite {d' : String} {content' : SupplierEmailRevision}
    {delivery' changed : SupplierEmailDelivery} (h : CurrentEmail s d content delivery)
    (h' : CurrentEmail s d' content' delivery') (hne : d ≠ d')
    (hdeliveries : s'.deliveries = s.deliveries.modify (.delivery delivery'.emailId)
      changed.rewritten (fun _ _ => rfl))
    (hrevisions : s'.emailRevisions = s.emailRevisions) : CurrentEmail s' d content delivery := by
  have hemail : delivery.emailId ≠ delivery'.emailId := fun he => hne (h.decision_unique h' he)
  refine h.congr (deliveryOf_modify_of_ne h hemail hdeliveries) ?_
  unfold latestEmail
  rw [hrevisions]

theorem mailStep_claim {k : String} {now : Instant}
    (h : ClaimsEmail w.store d content delivery k now s') : MailStep ids o w (w.withStore s') := by
  refine ⟨le_rfl, .inl rfl, fun d' content' delivery' hcurrent _ hopen => .inl ?_⟩
  refine hcurrent.keeps_rewrite h.current ?_ h.deliveries h.revisions
  rintro rfl
  obtain ⟨-, rfl⟩ := hcurrent.unique h.current
  exact hopen.not_editable h.editable

/-- The claimed email is being submitted. -/
theorem ClaimsEmail.submitting {k : String} {now : Instant}
    (h : ClaimsEmail s d content delivery k now s') : Submitting s' d content k :=
  have hcurrent := h.current.rewrite (delivery.submitting k now) rfl h.deliveries
    h.revisions
  ⟨_, hcurrent, h.reviewed.1, h.reviewed.2, rfl, rfl⟩

/-- The outcome of a submission decides how its delivery goes on. -/
theorem commits_recordOutcome {k : String} {now : Instant} {outcome : SendOutcome}
    {state : EmailState} (h : (recordOutcome d k now outcome).Commits s state s') :
    ∃ status code, MovesEmail s d k [.submitting] status code now s' ∧
      (status ∈ [SupplierEmailSendStatus.submitting, .accepted, .uncertain] ∨ outcome.Refused) := by
  cases outcome with
  | accepted => exact ⟨_, _, commits_transition h, .inl (by decide)⟩
  | uncertain code => exact ⟨_, _, commits_transition h, .inl (by decide)⟩
  | failed code => exact ⟨_, _, commits_transition h, .inr trivial⟩

theorem mailStep_move {m : Submission} {status : SupplierEmailSendStatus} {code : Option String}
    {now : Instant} (hm : m ∈ w.sent)
    (h : MovesEmail w.store m.decisionId m.correlationId [.submitting] status code now s')
    (hstatus : status ∈ [SupplierEmailSendStatus.submitting, .accepted, .uncertain] ∨
      m.outcome.Refused) : MailStep ids o w (w.withStore s') := by
  obtain ⟨content, delivery, hcurrent, hk, -, hdeliveries⟩ := h.current
  refine ⟨le_rfl, .inl rfl, fun d' content' delivery' hcurrent' _ _ => ?_⟩
  by_cases hd : d' = m.decisionId
  · subst hd
    obtain ⟨rfl, rfl⟩ := hcurrent.unique hcurrent'
    exact .inr ⟨m, hm, hk, _, hcurrent.rewrite (delivery.outcome status none none code now)
      rfl hdeliveries h.revisions, rfl, hstatus⟩
  · exact .inl (hcurrent'.keeps_rewrite hcurrent hd hdeliveries h.revisions)

/-! ### The invariant -/

/-- Submissions have their own ids; what the provider may have accepted stands, and
was the only such submission of its Decision. -/
structure MailInv (ids : ℕ → String) (w : Mailroom) : Prop where
  unidentified : Unidentified w.store
  issued : ∀ m ∈ w.sent, ∃ i < w.drawn, m.correlationId = ids i
  distinct : (w.sent.map Submission.correlationId).Nodup
  standing : ∀ m ∈ w.sent, m.outcome.Refused ∨ Standing w.store m
  refused : w.sent.Pairwise fun m m' => m.decisionId = m'.decisionId → m.outcome.Refused

namespace MailInv

theorem empty : MailInv ids Mailroom.empty where
  unidentified _ hd := absurd hd (Table.notMem_empty _)
  issued _ hm := absurd hm List.not_mem_nil
  distinct := .nil
  standing _ hm := absurd hm List.not_mem_nil
  refused := .nil

/-- A standing submission stands, or was refused. -/
theorem standing_step (h : MailInv ids w) (hs : MailStep ids o w w') {m : Submission}
    (hm : m ∈ w.sent) : m.outcome.Refused ∨ Standing w'.store m := by
  rcases h.standing m hm with hrefused | ⟨delivery, hcurrent, hreviewed, hk, hopen⟩
  · exact .inl hrefused
  · rcases hs.keeps _ _ _ hcurrent hreviewed hopen with
      hcurrent' | ⟨m', hm', hk', changed, hcurrent', hsame, hopen' | hrefused⟩
    · exact .inr ⟨delivery, hcurrent', hreviewed, hk, hopen⟩
    · exact .inr ⟨changed, hcurrent', hreviewed, hsame.trans hk, hopen'⟩
    · -- the recorded outcome is that of the submission with the same id
      have heq : m'.correlationId = m.correlationId := Option.some.inj (hk'.symm.trans hk)
      obtain rfl := List.inj_on_of_nodup_map h.distinct hm' hm heq
      exact .inl hrefused

theorem step (h : MailInv ids w) (hs : MailStep ids o w w')
    (ho : ∀ i, o = some i → i < w.drawn) (hid : Unidentified w'.store) : MailInv ids w' := by
  rcases hs.sent with hsent | ⟨m, i, hi, hk, hunsent, hsent, hsubmitting⟩
  · refine ⟨hid, ?_, hsent ▸ h.distinct, ?_, hsent ▸ h.refused⟩
    · intro m hm
      obtain ⟨i, hi, hk⟩ := h.issued m (hsent ▸ hm)
      exact ⟨i, hi.trans_le hs.drawn, hk⟩
    · exact fun m hm => h.standing_step hs (hsent ▸ hm)
  · obtain ⟨delivery, hcurrent, hreviewed, -, hdelivery, hstatus⟩ := hsubmitting
    have hopen := Submitting.unresolved hstatus
    refine ⟨hid, ?_, ?_, ?_, ?_⟩
    · rw [hsent]
      intro m' hm'
      rcases List.mem_append.mp hm' with hold | hnew
      · obtain ⟨i, hi, hk⟩ := h.issued m' hold
        exact ⟨i, hi.trans_le hs.drawn, hk⟩
      · obtain rfl := List.mem_singleton.mp hnew
        exact ⟨i, (ho i hi).trans_le hs.drawn, hk⟩
    · rw [hsent, List.map_append, List.nodup_append]
      refine ⟨h.distinct, List.nodup_singleton _, ?_⟩
      intro k hmem k' hk' heq
      obtain ⟨m', hm', rfl⟩ := List.mem_map.mp hmem
      rw [List.map_singleton, List.mem_singleton] at hk'
      exact hunsent m' hm' (heq.trans (hk'.trans hk))
    · rw [hsent]
      intro m' hm'
      rcases List.mem_append.mp hm' with hold | hnew
      · exact h.standing_step hs hold
      · obtain rfl := List.mem_singleton.mp hnew
        rcases hs.keeps _ _ _ hcurrent hreviewed hopen with hcurrent' | ⟨m', hm', hk', -⟩
        · exact .inr ⟨delivery, hcurrent', hreviewed, hdelivery, hopen⟩
        · exact absurd ((Option.some.inj (hk'.symm.trans hdelivery)).trans hk) (hunsent m' hm')
    · rw [hsent]
      refine List.pairwise_append.mpr ⟨h.refused, List.pairwise_singleton _ _, ?_⟩
      intro m' hm' m'' hnew hd
      obtain rfl := List.mem_singleton.mp hnew
      rcases h.standing m' hm' with hrefused | ⟨delivery', hcurrent', -, hk', -⟩
      · exact hrefused
      · -- it would be under the correlation id of the new one
        rw [hd] at hcurrent'
        obtain ⟨-, rfl⟩ := hcurrent.unique hcurrent'
        have heq : m'.correlationId = m''.correlationId :=
          Option.some.inj (hk'.symm.trans hdelivery)
        exact absurd (heq.trans hk) (hunsent m' hm')

end MailInv

/-! ### Calls -/

/-- A call of the mailroom answers with an email, or is a transaction. -/
def answer (state : EmailState) : Process Mailroom Raised (Option EmailState) := .done (some state)

/-- The calls: `send` and `check_send_status`, whatever the provider says, and the
transactions that submit nothing. -/
inductive MailCall (env : Env) (ids : ℕ → String) :
    Process Mailroom Raised (Option EmailState) → Prop
  | send (r : SendRequest) : MailCall env ids (sendEmail env ids r >>= answer)
  | check (config : MailConfig) (decisionId : String) (actor : IdentitySnapshot)
    (lookup : String → Option ProviderMessage) (now : Instant) :
    MailCall env ids (onStore (checkSendStatus env config decisionId actor lookup now) >>= answer)
  | other (t : Transaction) (ht : t.SubmitsNothing) :
    MailCall env ids (onStore (.transaction (t.program env)) >>= fun _ => .done none)

/-- How far a call is, with the index of the correlation id that it owns: from when it
draws the id until it submits under it. -/
inductive MailForm (env : Env) (ids : ℕ → String) (w : Mailroom) :
    Option ℕ → Process Mailroom Raised (Option EmailState) → Prop
  | call (p : Process Mailroom Raised (Option EmailState)) (hp : MailCall env ids p) :
    MailForm env ids w none p
  | drawn (i : ℕ) (r : SendRequest) (hi : i < w.drawn) (hunsent : Unsent ids w i) :
    MailForm env ids w (some i) (claimStage env r (ids i) >>= answer)
  | claimed (i : ℕ) (r : SendRequest) (content : SupplierEmailRevision) (hi : i < w.drawn)
    (hunsent : Unsent ids w i) (h : Submitting w.store r.decisionId content (ids i)) :
    MailForm env ids w (some i) (submitStage r (ids i) content >>= answer)
  | submitted (m : Submission) (now : Instant) (hm : m ∈ w.sent) :
    MailForm env ids w none (recordStage m now >>= answer)
  | quiet (p : Process Mailroom Raised (Option EmailState)) (hp : p.Quiet) :
    MailForm env ids w none p

theorem Unsent.step (h : Unsent ids w i) (hids : Function.Injective ids)
    (hs : MailStep ids o w w') (hne : o ≠ some i) : Unsent ids w' i := by
  rcases hs.sent with hsent | ⟨m, j, hj, hk, -, hsent, -⟩
  · exact fun m hm => h m (hsent ▸ hm)
  · intro m' hm'
    rw [hsent] at hm'
    rcases List.mem_append.mp hm' with hold | hnew
    · exact h m' hold
    · obtain rfl := List.mem_singleton.mp hnew
      intro heq
      obtain rfl := hids (hk.symm.trans heq)
      exact hne hj

theorem MailStep.sent_mono (hs : MailStep ids o w w') {m : Submission} (hm : m ∈ w.sent) :
    m ∈ w'.sent := by
  rcases hs.sent with hsent | ⟨_, _, -, -, -, hsent, -⟩
  · exact hsent.symm ▸ hm
  · rw [hsent]
    exact List.mem_append_left _ hm

/-- An action keeps the forms of the calls that own another id. -/
theorem MailForm.frame {o' : Option ℕ} {q : Process Mailroom Raised (Option EmailState)}
    (hids : Function.Injective ids) (h : MailForm env ids w o' q) (hs : MailStep ids o w w')
    (hne : ∀ i, o = some i → o' ≠ some i) : MailForm env ids w' o' q := by
  cases h with
  | call _ hp => exact .call _ hp
  | drawn i r hi hunsent =>
    exact .drawn i r (hi.trans_le hs.drawn) (hunsent.step hids hs fun ho => hne i ho rfl)
  | claimed i r content hi hunsent h =>
    refine .claimed i r content (hi.trans_le hs.drawn)
      (hunsent.step hids hs fun ho => hne i ho rfl) ?_
    obtain ⟨delivery, hcurrent, hreviewed, hrevision, hk, hstatus⟩ := h
    rcases hs.keeps _ _ _ hcurrent hreviewed (Submitting.unresolved hstatus) with
      hcurrent' | ⟨m, hm, hk', -⟩
    · exact ⟨delivery, hcurrent', hreviewed, hrevision, hk, hstatus⟩
    · exact absurd (Option.some.inj (hk'.symm.trans hk)) (hunsent m hm)
  | submitted m now hm => exact .submitted m now (hs.sent_mono hm)
  | quiet _ hp => exact .quiet _ hp

/-- An action of a call, and the form that it has behind it. -/
structure MailForm.Steps (env : Env) (ids : ℕ → String) (o : Option ℕ) (w : Mailroom)
    (p : Process Mailroom Raised (Option EmailState)) (w' : Mailroom) : Prop where
  step : MailStep ids o w w'
  unidentified : Unidentified w'.store
  form : ∃ o', MailForm env ids w' o' p ∧ ∀ i, o' = some i → o = some i ∨ w.drawn ≤ i

theorem MailForm.Steps.of_quiet {p : Process Mailroom Raised (Option EmailState)}
    (hp : p.Quiet) (hs : MailStep ids o w w') (hid : Unidentified w'.store) :
    MailForm.Steps env ids o w p w' :=
  ⟨hs, hid, none, .quiet p hp, fun i hi => by cases hi⟩

theorem quiet_answer (state : EmailState) : (answer state).Quiet := trivial

theorem quiet_canonicalEmail (d : String) :
    (onStore (.transaction (canonicalEmail d)) >>= answer).Quiet := by
  have hread : (canonicalEmail d).ReadOnly :=
    (readOnly_getCurrent _).bind fun _ => (readOnly_orRaise _ _).bind fun _ => readOnly_done _
  exact ((Process.quiet_transaction hread).onPart Mailroom.withStore_store).bind quiet_answer

/-- Without a claim, the first transaction of `send` hands nothing over. -/
theorem not_claimed_of_rollback {config : MailConfig} {revision : Nat} {actor : IdentitySnapshot}
    {k : String} {now : Instant} {claim : SendClaim}
    (h : (claimEmail env config d revision actor k now).Returns s (.rollback claim) s')
    (content : SupplierEmailRevision) : claim ≠ .claimed content := by
  rintro rfl
  obtain ⟨-, hrest⟩ := returns_require_bind.mp h
  obtain ⟨_, s₁, -, hrest⟩ := returns_bind.mp hrest
  obtain ⟨-, hrest⟩ | ⟨-, hrest⟩ := returns_ite.mp hrest
  · obtain ⟨claimed, s₂, -, hrest⟩ := returns_bind.mp hrest
    cases claimed with
    | false => cases (returns_done.mp hrest).1
    | true => cases (returns_done.mp hrest).1
  · cases (returns_done.mp hrest).1

/-- The records that `check_send_status` finds are those of a confirmed submission. -/
theorem returns_checkRecords {config : MailConfig} {actor : IdentitySnapshot}
    {x : Exit EmailState} (hs : Unidentified s)
    (h : (checkRecords env config d actor).Returns s x s') :
    x = .rollback x.answer ∧ x.answer.2.sendStatus = .sentConfirmed := by
  obtain ⟨-, h⟩ := returns_require_bind.mp h
  obtain ⟨current, hcurrent, h⟩ := (readOnly_getCurrent _).returns_bind.mp h
  obtain ⟨⟨revision, delivery⟩, hsome, h⟩ := returns_orRaise_bind.mp h
  obtain ⟨_, s₁, -, h⟩ := returns_bind.mp h
  obtain ⟨hchecked, h⟩ := returns_require_bind.mp h
  obtain ⟨rfl, -⟩ := returns_done.mp h
  rcases returns_getCurrent hcurrent with ⟨hnone, -⟩ | ⟨_, _, hsome', hstored⟩
  · cases hnone.symm.trans hsome
  obtain ⟨rfl, rfl⟩ := Prod.mk.inj (Option.some.inj (hsome.symm.trans hsome'))
  rcases hchecked with hconfirmed | ⟨-, hid, -⟩
  · exact ⟨rfl, hconfirmed⟩
  · rw [hstored.unidentified hs] at hid
    cases hid

theorem steps_drawn {i : ℕ} {r : SendRequest} (hinv : MailInv ids w) (hi : i < w.drawn)
    (hunsent : Unsent ids w i) :
    MailForm.Steps env ids (some i) w ((claimStage env r (ids i) >>= answer).step w).1
      ((claimStage env r (ids i) >>= answer).step w).2 := by
  have hrefl := hinv.unidentified
  rw [claimStage, Process.bind_assoc]
  rcases Process.step_onPart_transaction_cases Mailroom.withStore_store
    (claimEmail env r.config r.decisionId r.revision r.actor (ids i) r.claimedAt) _ w with
      ⟨claim, s', hc, heq⟩ | ⟨claim, s', hr, heq⟩ | ⟨e, -, heq⟩ <;> rw [heq]
  · obtain ⟨content, delivery, rfl, -, h⟩ := commits_claimEmail env r.config hc
    exact ⟨mailStep_claim h, (EmailStep.claimed _ _ _ _ _ h).unidentified hinv.unidentified,
      some i, .claimed i r content hi hunsent h.submitting, fun _ hj => .inl hj⟩
  · refine .of_quiet ?_ mailStep_refl hrefl
    cases claim with
    | claimed content => exact absurd rfl (not_claimed_of_rollback hr content)
    | current state => trivial
    | lost => exact quiet_canonicalEmail _
  · exact .of_quiet trivial mailStep_refl hrefl

theorem steps_call {p : Process Mailroom Raised (Option EmailState)}
    (hids : Function.Injective ids) (hinv : MailInv ids w) (hp : MailCall env ids p) :
    MailForm.Steps env ids none w (p.step w).1 (p.step w).2 := by
  have hrefl := hinv.unidentified
  cases hp with
  | send r =>
    -- the next correlation id is drawn
    refine ⟨mailStep_of_store rfl (Nat.le_succ _) (.inl rfl), hrefl, some w.drawn,
      .drawn w.drawn r (Nat.lt_succ_self _) fun m hm heq => ?_, fun i hi => ?_⟩
    · obtain ⟨i, hi, hk⟩ := hinv.issued m hm
      exact absurd (hids (hk.symm.trans heq)) hi.ne
    · exact .inr (Option.some.inj hi).le
  | check config decisionId actor lookup now =>
    rw [onStore, checkSendStatus, Process.onPart_bind, Process.bind_assoc]
    rcases Process.step_onPart_transaction_cases Mailroom.withStore_store
      (checkRecords env config decisionId actor) _ w with
        ⟨state, s', hc, heq⟩ | ⟨state, s', hr, heq⟩ | ⟨e, -, heq⟩ <;> rw [heq]
    · cases (returns_checkRecords hinv.unidentified hc).1
    · refine .of_quiet ?_ mailStep_refl hrefl
      have hconfirmed : state.2.sendStatus = .sentConfirmed :=
        (returns_checkRecords hinv.unidentified hr).2
      show ((if state.2.sendStatus = .sentConfirmed then _ else _ : Process Store Raised
        EmailState).onPart _ _ >>= answer).Quiet
      rw [if_pos hconfirmed]
      trivial
    · exact .of_quiet trivial mailStep_refl hrefl
  | other t ht =>
    rcases Process.step_onPart_transaction_cases Mailroom.withStore_store (t.program env) _ w with
      ⟨u, s', hc, heq⟩ | ⟨u, s', -, heq⟩ | ⟨e, -, heq⟩ <;> rw [heq]
    · exact .of_quiet trivial (mailStep_edit (editStep_of_commits ht hc))
        ((emailStep_of_commits hc).unidentified hinv.unidentified)
    · exact .of_quiet trivial mailStep_refl hrefl
    · exact .of_quiet trivial mailStep_refl hrefl

/-- Every action of a call keeps to `MailStep`, and leaves the call in one of the forms. -/
theorem MailForm.steps {p : Process Mailroom Raised (Option EmailState)}
    (hids : Function.Injective ids) (hinv : MailInv ids w) (h : MailForm env ids w o p) :
    MailForm.Steps env ids o w (p.step w).1 (p.step w).2 := by
  have hrefl := hinv.unidentified
  cases h with
  | call _ hp => exact steps_call hids hinv hp
  | drawn i r hi hunsent => exact steps_drawn hinv hi hunsent
  | claimed i r content hi hunsent h =>
    exact ⟨mailStep_of_store rfl le_rfl (.inr ⟨_, i, rfl, rfl, hunsent, rfl, h⟩), hrefl, none,
      .submitted _ _ (List.mem_append_right _ (List.mem_singleton_self _)), fun _ hj => by cases hj⟩
  | submitted m now hm =>
    rw [recordStage]
    rcases Process.step_onPart_transaction_cases Mailroom.withStore_store
      (recordOutcome m.decisionId m.correlationId now m.outcome) _ w with
        ⟨state, s', hc, heq⟩ | ⟨state, s', -, heq⟩ | ⟨e, -, heq⟩ <;> rw [heq]
    · obtain ⟨status, code, h, hstatus⟩ := commits_recordOutcome hc
      exact .of_quiet trivial (mailStep_move hm h hstatus)
        ((EmailStep.moved _ _ _ _ _ _ h).unidentified hinv.unidentified)
    · exact .of_quiet trivial mailStep_refl hrefl
    · exact .of_quiet trivial mailStep_refl hrefl
  | quiet _ hp =>
    obtain ⟨hsame, hnext⟩ := hp.step w
    exact .of_quiet hnext (hsame.symm ▸ mailStep_refl) (hsame.symm ▸ hrefl)

theorem MailForm.token_lt {p : Process Mailroom Raised (Option EmailState)} {i : ℕ}
    (h : MailForm env ids w (some i) p) : i < w.drawn := by
  cases h with
  | drawn _ _ hi _ => exact hi
  | claimed _ _ _ hi _ _ => exact hi

/-- In every interleaving: what is handed to the provider is the current, reviewed email
of its Decision, claimed under its own correlation id; only the last submission of a
Decision may have been accepted; and one that may have been, stays its current email,
for which nothing else can be submitted. -/
theorem sendEmail_safe (hids : Function.Injective ids)
    {pool : Pool Mailroom Raised (Option EmailState)}
    (h : Pool.Reaches (MailCall env ids) ⟨Mailroom.empty, []⟩ pool) :
    (∀ pool', Pool.Step (MailCall env ids) pool pool' →
      pool'.world.sent = pool.world.sent ∨ ∃ m, pool'.world.sent = pool.world.sent ++ [m] ∧
        Submitting pool.world.store m.decisionId m.content m.correlationId) ∧
    (pool.world.sent.map Submission.correlationId).Nodup ∧
    (pool.world.sent.Pairwise fun m m' => m.decisionId = m'.decisionId → m.outcome.Refused) ∧
    ∀ m ∈ pool.world.sent, m.outcome.Refused ∨ Standing pool.world.store m := by
  obtain ⟨hinv, hforms⟩ := h.owned (I := MailInv ids) (F := MailForm env ids)
    (fun p hp w _ => .call p hp)
    (fun w o p hinv hform => by
      obtain ⟨hstep, hid, o', hform', hgain⟩ := hform.steps hids hinv
      refine ⟨hinv.step hstep (fun i hi => (hi ▸ hform).token_lt) hid, o', hform', fun i hi => ?_⟩
      rcases hgain i hi with ho | hfresh
      · exact .inl ho
      · exact .inr fun q hq => absurd hq.token_lt (Nat.not_lt.mpr hfresh))
    (fun w o p o' q hinv hform hq hne => hq.frame hids (hform.steps hids hinv).step hne)
    .empty ⟨[], rfl, fun x hx => absurd hx List.not_mem_nil, .nil⟩
  refine ⟨fun pool' hstep => ?_, hinv.distinct, hinv.refused, hinv.standing⟩
  cases hstep with
  | start p hp => exact .inl rfl
  | act before after p =>
    obtain ⟨o, hform⟩ := hforms.form (List.mem_append_right before (List.mem_cons_self ..))
    rcases (hform.steps hids hinv).step.sent with hsent | ⟨m, _, -, -, -, hsent, hsubmitting⟩
    · exact .inl hsent
    · exact .inr ⟨m, hsent, hsubmitting⟩

/-! ### Two submissions of one email -/

instance (t : Transaction) : Decidable t.SubmitsNothing := inferInstanceAs (Decidable (_ ∧ _))

def sampleIds (n : ℕ) : String := String.ofList (List.replicate n 'a')

theorem sampleIds_injective : Function.Injective sampleIds := by
  intro i j h
  have hlists : List.replicate i 'a' = List.replicate j 'a' := String.ofList_injective h
  simpa using congrArg List.length hlists

/-- The sample case is planned, and its email is opened and reviewed. -/
def sampleReviewing : List Transaction :=
  samplePlanning ++
    [.getEmail sampleMail "RL-DECISION-1" 2,
      .reviewEmail sampleMail "RL-DECISION-1" 1 sampleAlex 3,
      .saveEmail sampleMail "RL-DECISION-1" 1 "another subject" "another text" sampleAlex 7]

def sampleSend (outcome : SendOutcome) : SendRequest :=
  ⟨sampleMail, "RL-DECISION-1", 1, sampleAlex, 4, 6, outcome⟩

/-- Two calls of `send`, the first of which is refused and the second accepted. -/
def sampleMailCalls : List (Process Mailroom Raised (Option EmailState)) :=
  [sendEmail sampleEnv sampleIds (sampleSend (.failed "graph_4xx")) >>= answer,
    sendEmail sampleEnv sampleIds (sampleSend .accepted) >>= answer] ++
  sampleReviewing.map fun t => onStore (.transaction (t.program sampleEnv)) >>= fun _ => .done none

theorem sampleMailCalls_calls : ∀ p ∈ sampleMailCalls, MailCall sampleEnv sampleIds p := by
  have hothers : ∀ t ∈ sampleReviewing, t.SubmitsNothing := by decide +kernel
  intro p hp
  rcases List.mem_cons.mp hp with rfl | hp
  · exact .send _
  · rcases List.mem_cons.mp hp with rfl | hp
    · exact .send _
    · obtain ⟨t, ht, rfl⟩ := List.mem_map.mp hp
      exact .other t (hothers t ht)

/-- The first submission is refused, and recorded so before the second one claims the email;
an edit comes between the second submission and its outcome. -/
def sampleSending : List Nat := [2, 3, 4, 5, 6, 7, 8, 9, 0, 1, 0, 0, 0, 1, 1, 10, 1]

/-- The pool of the sample calls after the schedule. -/
def sampleOutbound : Pool Mailroom Raised (Option EmailState) :=
  sampleSending.foldl Pool.actAt ⟨Mailroom.empty, sampleMailCalls⟩

theorem sampleOutbound_sent :
    sampleOutbound.world.sent.map (fun m => decide m.outcome.Refused) = [true, false] := by
  decide +kernel

/-- Only the accepted submission of the sample stands. -/
theorem sendEmail_safe_sample :
    ∃ w : Mailroom, w.sent.map (fun m => decide m.outcome.Refused) = [true, false] ∧
      ∃ m ∈ w.sent, ¬m.outcome.Refused ∧ Standing w.store m := by
  have hsent := sampleOutbound_sent
  have hreach := (Pool.reaches_started sampleMailCalls_calls Mailroom.empty).trans
    (Pool.reaches_schedule sampleSending _)
  have hsafe := (sendEmail_safe sampleIds_injective hreach).2.2.2
  have hfalse : false ∈ sampleOutbound.world.sent.map fun m => decide m.outcome.Refused := by
    rw [hsent]
    exact List.mem_cons_of_mem _ (List.mem_cons_self ..)
  obtain ⟨m, hm, hrefused⟩ := List.mem_map.mp hfalse
  have hopen := of_decide_eq_false hrefused
  exact ⟨_, hsent, m, hm, hopen, (hsafe m hm).resolve_left hopen⟩

end SupplyResponse
