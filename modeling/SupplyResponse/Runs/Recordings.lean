/-
Recording a Decision is idempotent and atomic.

* `Answers` — both transactions of a recording answer the same, and leave the
  database as it is;
* `recordInterrupted` — a recording whose first transaction is broken off;
* `Intact.rows`, `Intact.event_unique` — the rows of a stored Decision;
* `record_idempotent` — one Decision for a key, replays and conflicts without
  effect, all rows of a Decision or none.
-/
import SupplyResponse.Runs.Stability

namespace SupplyResponse

open Transact Transact.Prog
open Keyed (keys)

variable {env : Env} {s s' : Store}

/-! ### Reading a stored Decision by its key -/

/-- SHA-256 has no collision between the two texts. -/
def Env.Distinguishes (env : Env) (m m' : HashMaterial) : Prop :=
  env.sha256 m = env.sha256 m' → m = m'

/-- `idempotency key was already used`. -/
def idempotencyKeyConflict : Raised :=
  ⟨.idempotencyKeyConflict, "idempotency key was already used for a different request"⟩

theorem Intact.getDecisionByKey {d : Decision} (h : Intact env s d) (hd : d ∈ s.decisions) :
    (SupplyResponse.getDecisionByKey env d.idempotencyKey).Returns s (some d) s := by
  have hrow : s.decisions.get? (.decisionKey d.idempotencyKey) = some d :=
    Table.get?_of_mem hd (by simp)
  rw [SupplyResponse.getDecisionByKey, returns_select_bind, hrow]
  exact returns_bind.mpr ⟨(), s, h.returns, returns_done.mpr ⟨rfl, rfl⟩⟩

/-- A recording under a stored key comes down to `_return_existing`. -/
theorem recordTransaction_stored {d : Decision} (h : Intact env s d) (hd : d ∈ s.decisions)
    {command : RecordDecisionCommand} (hkey : command.idempotencyKey = d.idempotencyKey)
    (actor : IdentitySnapshot) (decisionUuid eventUuid : String) (decidedAt : Instant) :
    (recordTransaction env command actor decisionUuid eventUuid decidedAt).run s =
      (Exit.rollback <$> returnExisting (requestFingerprint env command actor) d).run s := by
  have hget := h.getDecisionByKey hd
  rw [← hkey] at hget
  unfold recordTransaction
  rw [run_bind, show Prog.run _ s = _ from hget]

theorem recordRecovery_stored {d : Decision} (h : Intact env s d) (hd : d ∈ s.decisions)
    {command : RecordDecisionCommand} (hkey : command.idempotencyKey = d.idempotencyKey)
    (actor : IdentitySnapshot) :
    (recordRecovery env command actor).run s =
      (Exit.rollback <$> returnExisting (requestFingerprint env command actor) d).run s := by
  have hget := h.getDecisionByKey hd
  rw [← hkey] at hget
  unfold recordRecovery
  rw [run_bind, show Prog.run _ s = _ from hget]

/-! ### Replays and conflicts -/

/-- The recording answers `r`, in its first transaction or, after a violated
unique index, in its second, and changes nothing. -/
structure Answers (env : Env) (s : Store) (command : RecordDecisionCommand)
    (actor : IdentitySnapshot) (r : Except Raised Decision) : Prop where
  record : ∀ decisionUuid eventUuid decidedAt,
    record env command actor decisionUuid eventUuid decidedAt s = (r, s)
  recovery : (recordRecovery env command actor).transact s = (r, s)

/-- The same request is answered by the stored Decision. -/
theorem answers_replay {d : Decision} (h : Intact env s d) (hd : d ∈ s.decisions)
    (hlegacy : d.approvalPolicyVersion ≠ WorkflowVersion.independentFinance.value)
    {command : RecordDecisionCommand} {actor : IdentitySnapshot}
    (hkey : command.idempotencyKey = d.idempotencyKey)
    (hsame : d.requestFingerprint = requestFingerprint env command actor) :
    Answers env s command actor (.ok d) := by
  have hreturns : (Exit.rollback <$> returnExisting (requestFingerprint env command actor) d).Returns
      s (.rollback d) s := by
    refine returns_map.mpr ⟨d, ?_, rfl⟩
    rw [returnExisting, returns_require_bind, returns_require_bind]
    exact ⟨hlegacy, hsame, returns_done.mpr ⟨rfl, rfl⟩⟩
  constructor
  · intro decisionUuid eventUuid decidedAt
    have hrun := recordTransaction_stored h hd hkey actor decisionUuid eventUuid decidedAt
    exact withRecovery_of_ok (transact_of_rollback (hrun.trans hreturns))
  · exact transact_of_rollback ((recordRecovery_stored h hd hkey actor).trans hreturns)

/-- Another request is refused. -/
theorem answers_conflict {d : Decision} (h : Intact env s d) (hd : d ∈ s.decisions)
    (hlegacy : d.approvalPolicyVersion ≠ WorkflowVersion.independentFinance.value)
    {command : RecordDecisionCommand} {actor : IdentitySnapshot}
    (hkey : command.idempotencyKey = d.idempotencyKey)
    (hother : d.requestFingerprint ≠ requestFingerprint env command actor) :
    Answers env s command actor (.error idempotencyKeyConflict) := by
  have hraises : (Exit.rollback <$> returnExisting (requestFingerprint env command actor) d).Raises
      s idempotencyKeyConflict := by
    have hfirst : (require (d.approvalPolicyVersion ≠ WorkflowVersion.independentFinance.value)
        independentFinanceRequired : Sql Unit).Returns s () s := returns_require.mpr ⟨hlegacy, rfl⟩
    have hsecond : (require (d.requestFingerprint = requestFingerprint env command actor)
        idempotencyKeyConflict : Sql Unit).Raises s idempotencyKeyConflict := raises_require hother
    exact (hfirst.raises_bind hsecond.bind).bind
  obtain ⟨s₁, hraises⟩ := hraises
  constructor
  · intro decisionUuid eventUuid decidedAt
    refine withRecovery_of_error (transact_of_raises ⟨s₁, ?_⟩) rfl
    exact (recordTransaction_stored h hd hkey actor decisionUuid eventUuid decidedAt).trans hraises
  · exact transact_of_raises ⟨s₁, (recordRecovery_stored h hd hkey actor).trans hraises⟩

theorem WorkflowVersion.value_injective {v w : WorkflowVersion} (h : v.value = w.value) :
    v = w := by
  revert h
  cases v <;> cases w <;> decide

/-- A recorded Decision has the legacy approval policy. -/
theorem Records.legacyPolicy {d : Decision} (h : Records env s d s') :
    d.approvalPolicyVersion ≠ WorkflowVersion.independentFinance.value := by
  obtain ⟨stored, hstored, hversion⟩ :=
    returns_requireAnalysisLineage_policy env h.journals.lineage
  obtain ⟨stored', hstored', hlegacy⟩ := h.legacy
  obtain rfl := Option.some.inj (hstored.symm.trans hstored')
  rw [hversion]
  exact fun heq => hlegacy (WorkflowVersion.value_injective heq)

/-! ### The rows of a Decision -/

/-- The satisfactions stored for a Decision. -/
def satisfactionRows (s : Store) (decisionId : String) : List SatisfactionRow :=
  s.satisfactions.rows.filter fun row => row.decisionId = decisionId

theorem Intact.rows {d : Decision} (h : Intact env s d) :
    ((satisfactionRows s d.decisionId).map SatisfactionRow.satisfaction).Perm
      d.approvalSatisfactions := by
  have hsorted := List.perm_insertionSort satisfactionBefore
    ((satisfactionRows s d.decisionId).map SatisfactionRow.satisfaction)
  rw [show List.insertionSort satisfactionBefore
    ((satisfactionRows s d.decisionId).map SatisfactionRow.satisfaction) = _
      from h.satisfactions] at hsorted
  exact hsorted.symm.trans (List.perm_insertionSort satisfactionBefore _)

theorem Intact.event_unique {d : Decision} (h : Intact env s d) (hk : d.kind = .approved) :
    ∃! row, row ∈ s.outbox ∧ row.event.decisionId = d.decisionId := by
  obtain ⟨row, hrow⟩ := Option.isSome_iff_exists.mp (h.event.mpr hk)
  obtain ⟨hmem, hkey⟩ := Table.get?_eq_some_iff.mp hrow
  have hid : d.decisionId = row.event.decisionId := by simpa using hkey
  refine ⟨row, ⟨hmem, hid.symm⟩, ?_⟩
  rintro row' ⟨hmem', hid'⟩
  have hrow' := Table.get?_of_mem hmem' (k := .outboxDecision d.decisionId) (by simp [hid'])
  exact Option.some.inj (hrow'.symm.trans hrow)

theorem Intact.event_none {d : Decision} (h : Intact env s d) (hk : d.kind = .rejected) :
    ∀ row ∈ s.outbox, row.event.decisionId ≠ d.decisionId := by
  intro row hrow hid
  have hevent : hasEvent s d.decisionId := by
    unfold hasEvent
    rw [Table.get?_of_mem hrow (k := .outboxDecision d.decisionId) (by simp [hid])]
    rfl
  have happroved := h.event.mp hevent
  rw [hk] at happroved
  cases happroved

/-! ### The result -/

/-- A recording whose first transaction is broken off by `fault` before its
statement number `n`. -/
def recordInterrupted (env : Env) (fault : Raised) (n : ℕ) (command : RecordDecisionCommand)
    (actor : IdentitySnapshot) (decisionUuid eventUuid : String) (decidedAt : Instant) :
    Store → Except Raised Decision × Store :=
  withRecovery (fun cls => cls = .integrityError)
    ((recordTransaction env command actor decisionUuid eventUuid decidedAt).interrupt fault n)
    (fun _ => recordRecovery env command actor)

/-- Two stored Decisions have different keys. -/
theorem decision_eq_of_key {d d' : Decision} (hd : d ∈ s.decisions) (hd' : d' ∈ s.decisions)
    (hkey : d'.idempotencyKey = d.idempotencyKey) : d' = d := by
  have hrow := Table.get?_of_mem hd (k := .decisionKey d.idempotencyKey) (by simp)
  have hrow' := Table.get?_of_mem hd' (k := .decisionKey d.idempotencyKey) (by simp [hkey])
  exact Option.some.inj (hrow'.symm.trans hrow)

/-- A committed recording, at any later moment. -/
theorem recorded_later {command : RecordDecisionCommand} {actor : IdentitySnapshot}
    {decisionUuid eventUuid : String} {decidedAt : Instant} {s₀ s₁ : Store} {d : Decision}
    (hs₀ : Run (Transaction.program env) Store.empty s₀)
    (hrecord : (recordTransaction env command actor decisionUuid eventUuid decidedAt).Commits s₀ d
      s₁) (hlater : Run (Transaction.program env) s₁ s) :
    d ∈ s.decisions ∧ Intact env s d := by
  have hr := returns_recordTransaction env hrecord
  have hs : AllIntact env s := by
    refine allIntact_of_run (hs₀.trans (.head ⟨.record command actor decisionUuid eventUuid decidedAt,
      (), commits_effect.mpr ⟨d, hrecord⟩⟩ hlater))
  have hd₁ : d ∈ s₁.decisions := by
    obtain ⟨row, satisfactions, outbox, -, -, -, rfl⟩ := hr.stores.effect
    exact Table.mem_add_self hr.stores.free
  have hd := (keeps_of_run hlater).decision hd₁
  exact ⟨hd, hs.intact d hd⟩

/-- In every reachable database: one Decision for a key; a recorded request is
answered by its Decision and every other one under its key is refused, without
effect; a Decision has all of its rows; what raises, wherever it breaks off,
leaves the database as it was. -/
theorem record_idempotent (h : Run (Transaction.program env) Store.empty s) :
    (∀ d ∈ s.decisions, ∀ d' ∈ s.decisions, d'.idempotencyKey = d.idempotencyKey → d' = d) ∧
    (∀ command actor decisionUuid eventUuid decidedAt s₀ s₁ d,
      Run (Transaction.program env) Store.empty s₀ →
      (recordTransaction env command actor decisionUuid eventUuid decidedAt).Commits s₀ d s₁ →
      Run (Transaction.program env) s₁ s →
        Answers env s command actor (.ok d) ∧
        ∀ command' actor', command'.idempotencyKey = command.idempotencyKey →
          ¬(command' = command ∧ actor' = actor) →
          env.Distinguishes (.decision command' actor') (.decision command actor) →
            Answers env s command' actor' (.error idempotencyKeyConflict)) ∧
    (∀ d ∈ s.decisions,
      (d.kind = .approved →
        ((satisfactionRows s d.decisionId).map SatisfactionRow.satisfaction).Perm
          d.approvalSatisfactions ∧
        ∃! row, row ∈ s.outbox ∧ row.event.decisionId = d.decisionId) ∧
      (d.kind = .rejected → satisfactionRows s d.decisionId = [] ∧
        ∀ row ∈ s.outbox, row.event.decisionId ≠ d.decisionId)) ∧
    ∀ command actor decisionUuid eventUuid decidedAt e s',
      (record env command actor decisionUuid eventUuid decidedAt s = (.error e, s') → s' = s) ∧
      ∀ fault n, recordInterrupted env fault n command actor decisionUuid eventUuid decidedAt s =
        (.error e, s') → s' = s := by
  have hall := allIntact_of_run h
  refine ⟨fun d hd d' hd' hkey => decision_eq_of_key hd hd' hkey, ?_, fun d hd => ⟨?_, ?_⟩, ?_⟩
  · intro command actor decisionUuid eventUuid decidedAt s₀ s₁ d hs₀ hrecord hlater
    obtain ⟨hd, hintact⟩ := recorded_later hs₀ hrecord hlater
    have hlegacy := (returns_recordTransaction env hrecord).legacyPolicy
    obtain ⟨hkey, hprint⟩ := recordTransaction_request env hrecord
    refine ⟨answers_replay hintact hd hlegacy hkey.symm hprint, ?_⟩
    intro command' actor' hkey' hother hsha
    refine answers_conflict hintact hd hlegacy (hkey'.trans hkey.symm) fun hsame => hother ?_
    have hmaterial := hsha (hsame.symm.trans hprint)
    injection hmaterial with hcommand hactor
    exact ⟨hcommand, hactor⟩
  · intro hk
    exact ⟨(hall.intact d hd).rows, (hall.intact d hd).event_unique hk⟩
  · intro hk
    refine ⟨?_, (hall.intact d hd).event_none hk⟩
    have hnone : d.approvalSatisfactions = [] := (d.valid.1 hk).2.2.2.2.2.2.2.1
    have hrows := (hall.intact d hd).rows
    rw [hnone] at hrows
    exact List.map_eq_nil_iff.mp hrows.eq_nil
  · intro command actor decisionUuid eventUuid decidedAt e s'
    exact ⟨withRecovery_error, fun fault n => withRecovery_error⟩

/-- A legacy case is analyzed; its response is approved by `sampleRecord`. -/
def sampleLegacyTransactions : List Transaction :=
  [.createCase (sampleCase .legacy) sampleSnapshot,
    .saveAnalysis (sampleAnalysis .legacy "analysis" 100) none 0]

def sampleRecord : RecordDecisionCommand :=
  ⟨"case", "analysis", some "option", .approved, "key", none, by decide⟩

theorem sampleRecord_commits :
    ∃ d s₁, d.kind = .approved ∧ (recordTransaction sampleEnv sampleRecord sampleAlex "1" "1" 0).Commits
      (history (Transaction.program sampleEnv) sampleLegacyTransactions Store.empty) d s₁ := by
  have hkind : (recordTransaction sampleEnv sampleRecord sampleAlex "1" "1" 0).checkCommitted
      (history (Transaction.program sampleEnv) sampleLegacyTransactions Store.empty)
      (fun d _ => d.kind = .approved) = true := by
    decide +kernel
  obtain ⟨d, s₁, hcommits, hd⟩ := exists_of_checkCommitted hkind
  exact ⟨d, s₁, of_decide_eq_true hd, hcommits⟩

/-- The sample request, repeated and refused to another actor. -/
theorem record_idempotent_sample :
    ∃ s d, d ∈ s.decisions ∧ Answers sampleEnv s sampleRecord sampleAlex (.ok d) ∧
      Answers sampleEnv s sampleRecord sampleTaylor (.error idempotencyKeyConflict) ∧
        ∃! row, row ∈ s.outbox ∧ row.event.decisionId = d.decisionId := by
  obtain ⟨d, s₁, hkind, hrecord⟩ := sampleRecord_commits
  have hs₀ := Run.history (Transaction.program sampleEnv) sampleLegacyTransactions Store.empty
  have hs₁ : Run (Transaction.program sampleEnv) Store.empty s₁ :=
    hs₀.tail ⟨.record sampleRecord sampleAlex "1" "1" 0, (), commits_effect.mpr ⟨d, hrecord⟩⟩
  have hd := (recorded_later hs₀ hrecord .refl).1
  obtain ⟨-, hanswers, hrows, -⟩ := record_idempotent hs₁
  obtain ⟨hreplay, hconflict⟩ := hanswers _ _ _ _ _ _ _ _ hs₀ hrecord .refl
  refine ⟨s₁, d, hd, hreplay, hconflict sampleRecord sampleTaylor rfl ?_ ?_,
    ((hrows d hd).1 hkind).2⟩
  · rintro ⟨-, hactor⟩
    exact absurd (congrArg IdentitySnapshot.personaId hactor) (by decide)
  · exact fun hsame => absurd hsame (by decide)

end SupplyResponse
