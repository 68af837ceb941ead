/-
Cases from supplier emails, under any interleaving of the requests.

* `BoundRow`, `InboundSound` — a case serves the key that its id is the digest of,
  and no other;
* `Stage` — how far a request has come, each stage with its next action;
* `SettledInsert` — no case is inserted under the id of a request that is about to
  answer, with another fingerprint or other facts;
* `createInboundCase_idempotent` — at most one case for a key, and what a request
  answers, rejects and prunes.
-/
import SupplyResponse.Api.Inbox
import SupplyResponse.Runs.Retention

namespace SupplyResponse

open Transact Transact.Prog

variable {services : InboxServices} {call : InboundCall} {db db' : PresenterDatabase}
  {t : TableName} {row : PresenterRow} {caseId : String} {source : SupplierEmailSource}

/-! ### Keys -/

theorem InboundKey.text_injective : Function.Injective InboundKey.text := by
  intro k k' h
  have hlist := Text.dumpsTexts_injective h
  simp only [List.cons.injEq, and_true] at hlist
  obtain ⟨htenant, hmailbox, hmessage, hrun⟩ := hlist
  cases k
  cases k'
  simp_all

theorem inboundCaseId_injective (hsha : Function.Injective services.sha256) :
    Function.Injective (inboundCaseId services) := by
  intro k k' h
  exact InboundKey.text_injective (hsha ((String.append_right_inj _).mp h))

/-- The key that a case serves. -/
def CaseInstance.inboundKey? (case : CaseInstance) : Option InboundKey :=
  case.supplierEmail.bind fun source => case.presenterRunId.map source.key

/-- The key that a case row serves. -/
def rowKey? (row : PresenterRow) : Option InboundKey :=
  match row.record with
  | .case case => case.inboundKey?
  | _ => none

/-- The id of a case row is the digest of the key that it serves, and of no other. -/
def BoundRow (services : InboxServices) (row : PresenterRow) : Prop :=
  ∀ case, row.record = .case case → row.cell .caseId = some (.text case.caseId) ∧
    ∀ key, case.inboundKey? = some key ↔ case.caseId = inboundCaseId services key

/-- The tables that hold the record of a case. -/
def CaseTable (t : TableName) : Prop := t = .caseInstances ∨ t = .caseProjection

/-- A case row has its projection, with the same email. -/
def HasProjection (db : PresenterDatabase) (row : PresenterRow) : Prop :=
  ∀ case, row.record = .case case → ∃ row' ∈ db .caseProjection, ∃ case',
    row'.record = .case case' ∧ row'.cell .caseId = row.cell .caseId ∧
      case'.supplierEmail = case.supplierEmail

/-- Keys, lineage, and every case bound to its key and projected. -/
structure InboundSound (services : InboxServices) (db : PresenterDatabase) : Prop where
  holds : presenterSchema.Holds db
  lineage : CaseLineage db
  bound : ∀ t, CaseTable t → ∀ row ∈ db t, BoundRow services row
  projected : ∀ row ∈ db .caseInstances, HasProjection db row

/-- At most one case serves a key, and the rows of one case serve the same keys. -/
structure OneCasePerKey (db : PresenterDatabase) : Prop where
  nodup : ((db .caseInstances).filterMap rowKey?).Nodup
  same : ∀ t t', CaseTable t → CaseTable t' → ∀ row ∈ db t, ∀ row' ∈ db t', ∀ key key',
    row.cell .caseId = row'.cell .caseId → rowKey? row = some key → rowKey? row' = some key' →
      key = key'

theorem rowKey?_eq_some {key : InboundKey} (h : rowKey? row = some key) :
    ∃ case, row.record = .case case ∧ case.inboundKey? = some key := by
  unfold rowKey? at h
  split at h
  · rename_i case hcase
    exact ⟨case, hcase, h⟩
  · cases h

theorem BoundRow.cell_of_key {key : InboundKey} (h : BoundRow services row)
    (hkey : rowKey? row = some key) :
    row.cell .caseId = some (.text (inboundCaseId services key)) := by
  obtain ⟨case, hcase, hkey⟩ := rowKey?_eq_some hkey
  obtain ⟨hcell, hiff⟩ := h case hcase
  rw [hcell, (hiff key).mp hkey]

/-- Two rows of a table with `case_id` as its key and the same id are one. -/
theorem eq_of_caseId (h : presenterSchema.Holds db) (ht : t.primaryKey = [.caseId])
    {row row' : PresenterRow} (hrow : row ∈ db t) (hrow' : row' ∈ db t)
    (hid : row.cell .caseId = row'.cell .caseId) : row = row' := by
  by_contra hne
  have hpairwise := (h.unique t)
  have hsymm : Std.Symm fun r r' : PresenterRow => ¬r.Agree (presenterSchema.primaryKey t) r' :=
    ⟨fun _ _ hr hagree => hr hagree.symm⟩
  refine hpairwise.forall hrow hrow' hne fun c hc => ?_
  have hkey : presenterSchema.primaryKey t = [.caseId] := ht
  rw [hkey] at hc
  obtain rfl := List.mem_singleton.mp hc
  exact hid

theorem InboundSound.oneCasePerKey (h : InboundSound services db)
    (hsha : Function.Injective services.sha256) : OneCasePerKey db where
  nodup := by
    refine List.Pairwise.filterMap rowKey? (R := fun r r' : PresenterRow =>
      r ∈ db .caseInstances ∧ r' ∈ db .caseInstances ∧ ¬r.Agree [.caseId] r') ?_ ?_
    · rintro r r' ⟨hr, hr', hagree⟩ key hkey key' hkey' rfl
      refine hagree fun c hc => ?_
      obtain rfl := List.mem_singleton.mp hc
      rw [(h.bound _ (.inl rfl) r hr).cell_of_key hkey,
        (h.bound _ (.inl rfl) r' hr').cell_of_key hkey']
    · exact (List.Pairwise.and_mem.mp (h.holds.unique .caseInstances))
  same t t' ht ht' row hrow row' hrow' key key' hid hkey hkey' := by
    rw [(h.bound t ht row hrow).cell_of_key hkey,
      (h.bound t' ht' row' hrow').cell_of_key hkey'] at hid
    exact inboundCaseId_injective hsha (Value.text.inj (Option.some.inj hid))

/-! ### Reading a case -/

theorem mem_of_rowOfCase (h : rowOfCase db t caseId = some row) :
    row ∈ db t ∧ row.cell .caseId = some (.text caseId) :=
  ⟨List.mem_of_find?_eq_some h, by simpa using List.find?_some h⟩

theorem decodeCase_eq_ok {case : CaseInstance} (h : decodeCase row = .ok case) :
    row.record = .case case := by
  unfold decodeCase at h
  split at h
  · rename_i hcase
    rw [hcase, Except.ok.inj h]
  · cases h

theorem readCase_eq_ok {env : Env} {case : CaseInstance}
    (h : readCase env db caseId = .ok (row, case)) :
    row ∈ db .caseProjection ∧ row.cell .caseId = some (.text caseId) ∧ row.record = .case case := by
  unfold readCase at h
  split at h
  · cases h
  · rename_i row' hrow
    obtain ⟨case', hcase, h⟩ := bind_eq_ok.mp h
    obtain ⟨stored, -, h⟩ := bind_eq_ok.mp h
    split at h
    · split at h
      · obtain ⟨rfl, rfl⟩ := Prod.mk.inj (Except.ok.inj h)
        obtain ⟨hmem, hcell⟩ := mem_of_rowOfCase hrow
        exact ⟨hmem, hcell, decodeCase_eq_ok hcase⟩
      · cases h
    · cases h

/-- The case that is read under the id of a key serves the key. -/
theorem InboundSound.read_key (h : InboundSound services db) {env : Env} {case : CaseInstance}
    {key : InboundKey} (hread : readCase env db (inboundCaseId services key) = .ok (row, case)) :
    case.inboundKey? = some key := by
  obtain ⟨hmem, hcell, hcase⟩ := readCase_eq_ok hread
  obtain ⟨hid, hiff⟩ := h.bound _ (.inr rfl) row hmem case hcase
  rw [hid] at hcell
  exact (hiff key).mpr (Value.text.inj (Option.some.inj hcell))

/-! ### What an insertion does -/

/-- A creation that succeeds inserts a case under a free id, keeps it, and leaves of
the others those that it does not prune. -/
structure Inserts (case : CaseInstance) (snapshot : OperationalSnapshot) (now : Instant)
    (db db' : PresenterDatabase) (result : PresenterRetentionResult) : Prop where
  free : FreeId db case.caseId
  kept : case.caseId ∉ result.plan.prunedCaseIds
  rows : ∀ t, db' t =
    withoutCases db result.plan.prunedCaseIds t ++ newRows case snapshot now t
  holds : presenterSchema.Holds db'
  lineage : CaseLineage db'

theorem inserts_of_commits (h : presenterSchema.Holds db) (hl : CaseLineage db) {env : Env}
    {granted : Bool} {case : CaseInstance} {snapshot : OperationalSnapshot} {now : Instant}
    {limit : ℤ} {result : PresenterRetentionResult}
    (hc : (createPresenterCase env granted now case snapshot limit).Commits db result db') :
    Inserts case snapshot now db db' result := by
  obtain ⟨result', hexit, hcreates⟩ := creates_of_returns h hl hc
  obtain rfl := Exit.commit.inj hexit
  obtain ⟨result', hexit, hvalid, hreturns⟩ := returns_createPresenterCase.mp hc
  obtain rfl := Exit.commit.inj hexit
  obtain ⟨-, hfree, -⟩ :=
    (returns_presenterCaseTransaction h hl hvalid.snapshot_caseId).mp hreturns
  obtain ⟨history, hnewest, -, hpruned⟩ := hcreates.plan
  refine ⟨hfree, fun hmem => ?_, hcreates.rows, hcreates.holds, hcreates.lineage⟩
  rw [hpruned] at hmem
  obtain ⟨row, hrow, -, -, case', -, hcase', heq⟩ :=
    (hnewest.mem_iff case.caseId).mp (List.mem_of_mem_drop hmem)
  exact hfree row hrow (heq ▸ hcase'.2.2.2)

/-- A new row of a case table is one of the case. -/
theorem mem_newRows {case : CaseInstance} {snapshot : OperationalSnapshot} {now : Instant}
    (ht : CaseTable t) (hrow : row ∈ newRows case snapshot now t) :
    row.record = .case case ∧ row.cell .caseId = some (.text case.caseId) := by
  rcases ht with rfl | rfl
  · obtain rfl := List.mem_singleton.mp hrow
    exact ⟨rfl, rfl⟩
  · obtain rfl := List.mem_singleton.mp hrow
    exact ⟨rfl, rfl⟩

/-- An old row of a case that is not pruned stays. -/
theorem mem_withoutCases (hl : CaseLineage db) {caseIds : List String} (hrow : row ∈ db t)
    (hid : row.cell .caseId = some (.text caseId)) :
    row ∈ withoutCases db caseIds t ↔ caseId ∉ caseIds := by
  have hbelongs : BelongsToCases db caseIds t row ↔ caseId ∈ caseIds := by
    constructor
    · rintro ⟨caseId', hmem, hcase⟩
      have hsame := hl t row hrow _ _ hcase (.own hid)
      rwa [← Value.text.inj hsame]
    · exact fun hmem => ⟨caseId, hmem, .own hid⟩
  classical
  unfold withoutCases
  rw [List.mem_filter, decide_eq_true_iff, hbelongs]
  exact and_iff_right hrow

theorem mem_of_mem_withoutCases {caseIds : List String} (h : row ∈ withoutCases db caseIds t) :
    row ∈ db t :=
  List.mem_of_mem_filter h

theorem InboundSound.insert (h : InboundSound services db)
    (hsha : Function.Injective services.sha256) {case : CaseInstance}
    {snapshot : OperationalSnapshot} {now : Instant} {result : PresenterRetentionResult}
    {key : InboundKey} (hinserts : Inserts case snapshot now db db' result)
    (hkey : case.inboundKey? = some key) (hid : case.caseId = inboundCaseId services key) :
    InboundSound services db' := by
  refine ⟨hinserts.holds, hinserts.lineage, fun t ht row hrow => ?_, fun row hrow => ?_⟩
  · rw [hinserts.rows] at hrow
    rcases List.mem_append.mp hrow with hold | hnew
    · exact h.bound t ht row (mem_of_mem_withoutCases hold)
    · obtain ⟨hrecord, hcell⟩ := mem_newRows ht hnew
      intro case' hcase'
      rw [hrecord] at hcase'
      obtain rfl := Payload.case.inj hcase'
      refine ⟨hcell, fun key' => ?_⟩
      rw [hkey, hid, (inboundCaseId_injective hsha).eq_iff]
      exact Option.some_inj
  · rw [hinserts.rows] at hrow
    intro case' hcase'
    rcases List.mem_append.mp hrow with hold | hnew
    · have hmem := mem_of_mem_withoutCases hold
      obtain ⟨row', hrow', case'', hcase'', hcell, hemail⟩ := h.projected row hmem case' hcase'
      have hid' := (h.bound _ (.inl rfl) row hmem case' hcase').1
      refine ⟨row', ?_, case'', hcase'', hcell, hemail⟩
      rw [hinserts.rows]
      exact List.mem_append_left _ ((mem_withoutCases h.lineage hrow' (hcell.trans hid')).mpr
        ((mem_withoutCases h.lineage hmem hid').mp hold))
    · obtain ⟨hrecord, hcell⟩ := mem_newRows (.inl rfl) hnew
      rw [hrecord] at hcase'
      obtain rfl := Payload.case.inj hcase'
      refine ⟨projectionRow case, ?_, case, rfl, hcell.symm, rfl⟩
      rw [hinserts.rows]
      exact List.mem_append_right _ (List.mem_singleton.mpr rfl)

/-! ### Stages of a request -/

/-- What a request comes to: itself with its response. -/
abbrev InboundProcess := InboxProcess (InboundCall × CaseResponse)

def serve (services : InboxServices) (call : InboundCall) : InboundProcess :=
  createInboundCase services call >>= fun response => pure (call, response)

/-- How far a request has come with a reviewed source. -/
inductive Stage
  | lookup
  | insert (live : CaseInstance × OperationalSnapshot)
  | recheck
  | respond
  | finish (projection : PresenterRow × CaseInstance)
  | last (projection : PresenterRow × CaseInstance) (row : PresenterRow)

/-- The id under which a request looks its case up. -/
def requestedId (services : InboxServices) (call : InboundCall) (source : SupplierEmailSource) :
    String :=
  inboundCaseId services (source.key call.request.presenterRunId)

/-- What is left to do. -/
def Stage.process (services : InboxServices) (call : InboundCall) (source : SupplierEmailSource) :
    Stage → InboundProcess
  | lookup => createOrMatch services call (requestedId services call source) source >>=
      fun response => pure (call, response)
  | insert live =>
    ((Process.attempt (createPresenterCase services.env call.granted call.now live.1 live.2) >>=
        createdAnswer services call (requestedId services call source) source) >>=
      fun _ => caseResponse services (requestedId services call source)) >>=
        fun response => pure (call, response)
  | recheck =>
    (recheckCase services call (requestedId services call source) source >>=
      fun _ => caseResponse services (requestedId services call source)) >>=
        fun response => pure (call, response)
  | respond => caseResponse services (requestedId services call source) >>=
      fun response => pure (call, response)
  | finish projection => finishResponse (requestedId services call source) projection >>=
      fun response => pure (call, response)
  | last projection row =>
    (required (fun db => requireRow db .caseProjection (requestedId services call source)) >>=
      fun _ => pure ⟨projection.2, projection.1.cell .currentAnalysisId,
        projection.1.cell .currentDecisionId, recordedAt row⟩) >>=
        fun response => pure (call, response)

theorem serve_cases (services : InboxServices) (call : InboundCall) :
    (∃ e, serve services call = .raise e) ∨
      ∃ source, reviewedSource services call = .ok source ∧
        serve services call = Stage.lookup.process services call source := by
  unfold serve createInboundCase
  rcases reviewedSource services call with e | source
  · exact .inl ⟨e, rfl⟩
  · exact .inr ⟨source, rfl, rfl⟩

theorem close_readOnce {α : Type} (f : PresenterDatabase → Except Raised α)
    (db : PresenterDatabase) : (readOnce f).close db = ((f db).map Exit.rollback, db) := by
  have hrun : (readOnce f).run db = ((f db).map Exit.rollback, db) := by
    unfold readOnce
    show ((Connection.ofExcept (f db) >>= fun a => pure (.rollback a) :
      Connection (Exit α))).run db = _
    rcases f db with e | a <;> rfl
  unfold close
  rw [hrun]
  rcases f db with e | a <;> rfl

/-- A read, and what follows it. -/
theorem step_attempt_readOnce {α β : Type} (f : PresenterDatabase → Except Raised α)
    (g : Except Raised α → InboxProcess β) (db : PresenterDatabase) :
    (Process.attempt (readOnce f) >>= g).step db = (g (f db), db) := by
  show (g (((readOnce f).close db).1.map Exit.answer), ((readOnce f).close db).2) = _
  rw [close_readOnce]
  rcases f db with e | a <;> rfl

/-- The case under the id of a request has its fingerprint and facts. -/
def SameFacts (case : CaseInstance) (source : SupplierEmailSource) : Prop :=
  ∃ saved, case.supplierEmail = some saved ∧ saved.reviewFingerprint = source.reviewFingerprint ∧
    saved.facts = source.facts

theorem compareCase_eq_ok {case : CaseInstance} {presenterRunId : String} {u : Unit}
    (h : compareCase case source presenterRunId = .ok u) :
    case.inboundKey? = some (source.key presenterRunId) ∧ SameFacts case source := by
  unfold compareCase at h
  split at h
  · cases h
  · rename_i saved hsaved
    split at h
    · cases h
    · rename_i hkey
      split at h
      · cases h
      · rename_i hfingerprint
        split at h
        · cases h
        · rename_i hfacts
          push Not at hkey hfingerprint hfacts
          obtain ⟨-, hrun, hsource⟩ := hkey
          simp only [Prod.mk.injEq] at hsource
          refine ⟨?_, saved, hsaved, hfingerprint, hfacts⟩
          rw [CaseInstance.inboundKey?, hsaved, hrun]
          show some _ = some _
          rw [SupplierEmailSource.key, SupplierEmailSource.key, hsource.1, hsource.2.1, hsource.2.2]

/-- A look-up finds a case with the same facts, or none, or ends the request. -/
theorem matchedAnswer_cases (source : SupplierEmailSource) (presenterRunId : String)
    (answer : Except Raised (PresenterRow × CaseInstance)) :
    (∃ e, matchedAnswer source presenterRunId answer = .error e) ∨
      (matchedAnswer source presenterRunId answer = .ok true ∧ ∃ row case,
        answer = .ok (row, case) ∧ SameFacts case source) ∨
      (matchedAnswer source presenterRunId answer = .ok false ∧
        ∃ e, answer = .error e ∧ e.cls = .recordNotFound) := by
  rcases answer with e | ⟨row, case⟩
  · by_cases hmissing : e.cls = .recordNotFound
    · exact .inr (.inr ⟨if_pos hmissing, e, rfl, hmissing⟩)
    · exact .inl ⟨_, if_neg hmissing⟩
  · have hanswer : matchedAnswer source presenterRunId (.ok (row, case)) =
        (compareCase case source presenterRunId).map fun _ => true := rfl
    rw [hanswer]
    rcases hcompare : compareCase case source presenterRunId with e | u
    · exact .inl ⟨e, rfl⟩
    · exact .inr (.inl ⟨rfl, row, case, rfl, (compareCase_eq_ok hcompare).2⟩)

theorem step_lookup (services : InboxServices) (call : InboundCall)
    (source : SupplierEmailSource) (db : PresenterDatabase) :
    ∃ next, (Stage.lookup.process services call source).step db = (next, db) ∧
      ((∃ e, next = .raise e) ∨
        (next = Stage.respond.process services call source ∧ ∃ row case,
          readCase services.env db (requestedId services call source) = .ok (row, case) ∧
            SameFacts case source) ∨
        ∃ live, newCase services call (requestedId services call source) source = .ok live ∧
          next = (Stage.insert live).process services call source ∧
          ∃ e, readCase services.env db (requestedId services call source) = .error e ∧
            e.cls = .recordNotFound) := by
  have hform : Stage.lookup.process services call source =
      (Process.attempt (readOnce fun db =>
        readCase services.env db (requestedId services call source)) >>= fun answer =>
      (Process.ofExcept (matchedAnswer source call.request.presenterRunId answer) >>= fun matched =>
        (if matched then pure () else
          insertCase services call (requestedId services call source) source :
            InboxProcess Unit) >>= fun _ =>
          caseResponse services (requestedId services call source)) >>=
        fun response => pure (call, response)) := rfl
  rw [hform, step_attempt_readOnce]
  refine ⟨_, rfl, ?_⟩
  rcases matchedAnswer_cases source call.request.presenterRunId
    (readCase services.env db (requestedId services call source)) with
    ⟨e, hanswer⟩ | ⟨hanswer, hcase⟩ | ⟨hanswer, hmissing⟩ <;> rw [hanswer]
  · exact .inl ⟨e, rfl⟩
  · exact .inr (.inl ⟨rfl, hcase⟩)
  · rcases hnew : newCase services call (requestedId services call source) source with e | live
    · refine .inl ⟨e, ?_⟩
      show ((insertCase services call _ source >>= _) >>= _) = _
      rw [insertCase, hnew]
      rfl
    · refine .inr (.inr ⟨live, rfl, ?_, hmissing⟩)
      show ((insertCase services call _ source >>= _) >>= _) = _
      rw [insertCase, hnew]
      rfl

theorem step_recheck (services : InboxServices) (call : InboundCall)
    (source : SupplierEmailSource) (db : PresenterDatabase) :
    ∃ next, (Stage.recheck.process services call source).step db = (next, db) ∧
      ((∃ e, next = .raise e) ∨
        next = Stage.respond.process services call source ∧ ∃ row case,
          readCase services.env db (requestedId services call source) = .ok (row, case) ∧
            SameFacts case source) := by
  have hform : Stage.recheck.process services call source =
      (Process.attempt (readOnce fun db =>
        readCase services.env db (requestedId services call source)) >>= fun answer =>
      ((Process.ofExcept (matchedAnswer source call.request.presenterRunId answer) >>= fun matched =>
        Process.check (matched = true) (.inbound "INBOUND_EMAIL_CONFLICT")) >>= fun _ =>
          caseResponse services (requestedId services call source)) >>=
        fun response => pure (call, response)) := rfl
  rw [hform, step_attempt_readOnce]
  refine ⟨_, rfl, ?_⟩
  rcases matchedAnswer_cases source call.request.presenterRunId
    (readCase services.env db (requestedId services call source)) with
    ⟨e, hanswer⟩ | ⟨hanswer, hcase⟩ | ⟨hanswer, -⟩ <;> rw [hanswer]
  · exact .inl ⟨e, rfl⟩
  · exact .inr ⟨rfl, hcase⟩
  · exact .inl ⟨_, rfl⟩

/-- An insertion commits and goes on to the response, or leaves the database alone. -/
theorem step_insert (services : InboxServices) (call : InboundCall)
    (source : SupplierEmailSource) (live : CaseInstance × OperationalSnapshot)
    (db : PresenterDatabase) :
    ∃ next db', ((Stage.insert live).process services call source).step db = (next, db') ∧
      ((∃ result, (createPresenterCase services.env call.granted call.now live.1 live.2).Commits db
          result db' ∧ next = Stage.respond.process services call source) ∨
        db' = db ∧ ((∃ e, next = .raise e) ∨
          next = Stage.recheck.process services call source)) := by
  have hstep : ((Stage.insert live).process services call source).step db =
      ((createdAnswer services call (requestedId services call source) source
          (((createPresenterCase services.env call.granted call.now live.1 live.2).close db).1.map
            Exit.answer) >>= fun _ =>
        caseResponse services (requestedId services call source)) >>=
        fun response => pure (call, response),
      ((createPresenterCase services.env call.granted call.now live.1 live.2).close db).2) := rfl
  rw [hstep]
  rcases (createPresenterCase services.env call.granted call.now live.1 live.2).close_cases db with
    ⟨result, db', hreturns, -⟩ | ⟨result, db', hcommits, hclose⟩ | ⟨e, -, hclose⟩
  · obtain ⟨result', hexit, -⟩ := returns_createPresenterCase.mp hreturns
    cases hexit
  · rw [hclose]
    exact ⟨_, _, rfl, .inl ⟨result, hcommits, rfl⟩⟩
  · rw [hclose]
    refine ⟨_, _, rfl, .inr ⟨rfl, ?_⟩⟩
    have hanswer : createdAnswer services call (requestedId services call source) source
        ((Except.error e).map Exit.answer) =
          if e.cls = .immutableRecordConflict then
            recheckCase services call (requestedId services call source) source
          else .raise .other := rfl
    rw [hanswer]
    split
    · exact .inr rfl
    · exact .inl ⟨.other, rfl⟩

theorem step_respond (services : InboxServices) (call : InboundCall)
    (source : SupplierEmailSource) (db : PresenterDatabase) :
    ∃ next, (Stage.respond.process services call source).step db = (next, db) ∧
      ((∃ e, next = .raise e) ∨ ∃ projection,
        readCase services.env db (requestedId services call source) = .ok projection ∧
          next = (Stage.finish projection).process services call source) := by
  have hform : Stage.respond.process services call source =
      (Process.attempt (readOnce fun db =>
        readCase services.env db (requestedId services call source)) >>= fun answer =>
      ((Process.ofExcept (answer.mapError fun _ => InboxFailure.other)) >>= fun projection =>
        finishResponse (requestedId services call source) projection) >>=
        fun response => pure (call, response)) := rfl
  rw [hform, step_attempt_readOnce]
  refine ⟨_, rfl, ?_⟩
  rcases hread : readCase services.env db (requestedId services call source) with e | projection
  · exact .inl ⟨.other, rfl⟩
  · exact .inr ⟨projection, rfl, rfl⟩

theorem step_finish (services : InboxServices) (call : InboundCall)
    (source : SupplierEmailSource) (projection : PresenterRow × CaseInstance)
    (db : PresenterDatabase) :
    ∃ next, ((Stage.finish projection).process services call source).step db = (next, db) ∧
      ((∃ e, next = .raise e) ∨
        ∃ row, next = (Stage.last projection row).process services call source) := by
  have hform : (Stage.finish projection).process services call source =
      (Process.attempt (readOnce fun db =>
        requireRow db .caseInstances (requestedId services call source)) >>= fun answer =>
      (Process.ofExcept (answer.mapError fun _ => InboxFailure.other) >>= fun row =>
        required (fun db => requireRow db .caseProjection (requestedId services call source)) >>=
          fun _ => pure ⟨projection.2, projection.1.cell .currentAnalysisId,
            projection.1.cell .currentDecisionId, recordedAt row⟩) >>=
        fun response => pure (call, response)) := rfl
  rw [hform, step_attempt_readOnce]
  refine ⟨_, rfl, ?_⟩
  rcases requireRow db .caseInstances (requestedId services call source) with e | row
  · exact .inl ⟨.other, rfl⟩
  · exact .inr ⟨row, rfl⟩

theorem step_last (services : InboxServices) (call : InboundCall)
    (source : SupplierEmailSource) (projection : PresenterRow × CaseInstance) (row : PresenterRow)
    (db : PresenterDatabase) :
    ∃ next, ((Stage.last projection row).process services call source).step db = (next, db) ∧
      ((∃ e, next = .raise e) ∨
        ∃ response : CaseResponse, response.case = projection.2 ∧
          next = .done (call, response)) := by
  have hform : (Stage.last projection row).process services call source =
      (Process.attempt (readOnce fun db =>
        requireRow db .caseProjection (requestedId services call source)) >>= fun answer =>
      (Process.ofExcept (answer.mapError fun _ => InboxFailure.other) >>= fun _ =>
        pure ⟨projection.2, projection.1.cell .currentAnalysisId,
          projection.1.cell .currentDecisionId, recordedAt row⟩) >>=
        fun response => pure (call, response)) := rfl
  rw [hform, step_attempt_readOnce]
  refine ⟨_, rfl, ?_⟩
  rcases requireRow db .caseProjection (requestedId services call source) with e | row'
  · exact .inl ⟨.other, rfl⟩
  · exact .inr ⟨_, rfl, rfl⟩

/-! ### Requests under way -/

/-- Whatever is stored under the id has the fingerprint and the facts. -/
def FactsHold (db : PresenterDatabase) (caseId : String) (source : SupplierEmailSource) : Prop :=
  ∀ row ∈ db .caseProjection, row.cell .caseId = some (.text caseId) →
    ∀ case, row.record = .case case → SameFacts case source

/-- A request, or what is left of it.  Under `facts`, it has found or inserted the
case with its own facts by the time it responds. -/
inductive InboundForm (services : InboxServices) (facts : Prop) (db : PresenterDatabase) :
    InboundProcess → Prop
  | raised (e : InboxFailure) : InboundForm services facts db (.raise e)
  | lookup {call : InboundCall} {source : SupplierEmailSource}
    (hsource : reviewedSource services call = .ok source) :
    InboundForm services facts db (Stage.lookup.process services call source)
  | insert {call : InboundCall} {source : SupplierEmailSource}
    {live : CaseInstance × OperationalSnapshot}
    (hsource : reviewedSource services call = .ok source)
    (hnew : newCase services call (requestedId services call source) source = .ok live) :
    InboundForm services facts db ((Stage.insert live).process services call source)
  | recheck {call : InboundCall} {source : SupplierEmailSource}
    (hsource : reviewedSource services call = .ok source) :
    InboundForm services facts db (Stage.recheck.process services call source)
  | respond {call : InboundCall} {source : SupplierEmailSource}
    (hsource : reviewedSource services call = .ok source)
    (hfacts : facts → FactsHold db (requestedId services call source) source) :
    InboundForm services facts db (Stage.respond.process services call source)
  | finish {call : InboundCall} {source : SupplierEmailSource}
    {projection : PresenterRow × CaseInstance}
    (hsource : reviewedSource services call = .ok source)
    (hkey : projection.2.inboundKey? = some (source.key call.request.presenterRunId))
    (hfacts : facts → SameFacts projection.2 source) :
    InboundForm services facts db ((Stage.finish projection).process services call source)
  | last {call : InboundCall} {source : SupplierEmailSource}
    {projection : PresenterRow × CaseInstance} {row : PresenterRow}
    (hsource : reviewedSource services call = .ok source)
    (hkey : projection.2.inboundKey? = some (source.key call.request.presenterRunId))
    (hfacts : facts → SameFacts projection.2 source) :
    InboundForm services facts db ((Stage.last projection row).process services call source)
  | done {call : InboundCall} {source : SupplierEmailSource} {response : CaseResponse}
    (hsource : reviewedSource services call = .ok source)
    (hkey : response.case.inboundKey? = some (source.key call.request.presenterRunId))
    (hfacts : facts → SameFacts response.case source) :
    InboundForm services facts db (.done (call, response))

theorem form_serve (services : InboxServices) (call : InboundCall) (facts : Prop)
    (db : PresenterDatabase) : InboundForm services facts db (serve services call) := by
  rcases serve_cases services call with ⟨e, h⟩ | ⟨source, hsource, h⟩ <;> rw [h]
  · exact .raised e
  · exact .lookup hsource

/-- The case that a request inserts. -/
theorem newCase_eq_ok {live : CaseInstance × OperationalSnapshot}
    (h : newCase services call caseId source = .ok live) :
    live.1.caseId = caseId ∧ live.1.supplierEmail = some source ∧
      live.1.inboundKey? = some (source.key call.request.presenterRunId) := by
  obtain ⟨found, -, h⟩ := bind_eq_ok.mp h
  split at h
  · cases h
  · rename_i hmatch
    push Not at hmatch
    obtain ⟨_, -, h⟩ := bind_eq_ok.mp h
    obtain rfl := Except.ok.inj h
    exact ⟨hmatch.1, rfl, rfl⟩

theorem factsHold_of_read (h : presenterSchema.Holds db) {env : Env} {case : CaseInstance}
    (hread : readCase env db caseId = .ok (row, case)) (hfacts : SameFacts case source) :
    FactsHold db caseId source := by
  obtain ⟨hmem, hcell, hrecord⟩ := readCase_eq_ok hread
  intro row' hrow' hcell' case' hcase'
  obtain rfl := eq_of_caseId h rfl hmem hrow' (hcell.trans hcell'.symm)
  rw [hrecord] at hcase'
  obtain rfl := Payload.case.inj hcase'
  exact hfacts

theorem factsHold_of_inserts {case : CaseInstance} {snapshot : OperationalSnapshot}
    {now : Instant} {result : PresenterRetentionResult}
    (h : Inserts case snapshot now db db' result) (hfacts : SameFacts case source) :
    FactsHold db' case.caseId source := by
  intro row hrow hcell case' hcase'
  have hnew : projectionRow case ∈ db' .caseProjection := by
    rw [h.rows]
    exact List.mem_append_right _ (List.mem_singleton.mpr rfl)
  obtain rfl := eq_of_caseId h.holds rfl hrow hnew hcell
  obtain rfl := Payload.case.inj hcase'
  exact hfacts

/-- A request that is about to insert a case under a free id has the fingerprint and
the facts of every request that is about to respond with the case of this id. -/
def SettledInsert (services : InboxServices)
    (pool : Pool PresenterDatabase InboxFailure (InboundCall × CaseResponse))
    (p : InboundProcess) : Prop :=
  ∀ call source live, reviewedSource services call = .ok source →
    p = (Stage.insert live).process services call source →
    FreeId pool.world (requestedId services call source) →
    ∀ call' source', reviewedSource services call' = .ok source' →
      Stage.respond.process services call' source' ∈ pool.calls →
      requestedId services call' source' = requestedId services call source →
      source.reviewFingerprint = source'.reviewFingerprint ∧ source.facts = source'.facts

/-- Another request's insertion leaves the form of a request, if under `facts` it is
settled. -/
theorem InboundForm.inserts {facts : Prop} {q : InboundProcess} {case : CaseInstance}
    {snapshot : OperationalSnapshot} {now : Instant} {result : PresenterRetentionResult}
    (hq : InboundForm services facts db q) (hinserts : Inserts case snapshot now db db' result)
    (hsettled : facts → ∀ call' source', reviewedSource services call' = .ok source' →
      q = Stage.respond.process services call' source' →
      requestedId services call' source' = case.caseId → SameFacts case source') :
    InboundForm services facts db' q := by
  cases hq with
  | raised e => exact .raised e
  | lookup hsource => exact .lookup hsource
  | insert hsource hnew => exact .insert hsource hnew
  | recheck hsource => exact .recheck hsource
  | @respond call' source' hsource hfacts =>
    refine .respond hsource fun hf => ?_
    by_cases hid : requestedId services call' source' = case.caseId
    · rw [hid]
      exact factsHold_of_inserts hinserts (hsettled hf call' source' hsource rfl hid)
    · intro row hrow hcell
      rw [hinserts.rows] at hrow
      rcases List.mem_append.mp hrow with hold | hnew
      · exact hfacts hf row (mem_of_mem_withoutCases hold) hcell
      · rw [(mem_newRows (.inr rfl) hnew).2] at hcell
        exact absurd (Value.text.inj (Option.some.inj hcell)).symm hid
  | finish hsource hkey hfacts => exact .finish hsource hkey hfacts
  | last hsource hkey hfacts => exact .last hsource hkey hfacts
  | done hsource hkey hfacts => exact .done hsource hkey hfacts

/-- A step keeps the invariant and every form. -/
theorem step_forms (hsha : Function.Injective services.sha256) {facts : Prop}
    {pool : Pool PresenterDatabase InboxFailure (InboundCall × CaseResponse)} {p : InboundProcess}
    (hp : p ∈ pool.calls) (hsound : InboundSound services pool.world)
    (hforms : ∀ q ∈ pool.calls, InboundForm services facts pool.world q)
    (hok : facts → SettledInsert services pool p) :
    InboundSound services (p.step pool.world).2 ∧
      InboundForm services facts (p.step pool.world).2 (p.step pool.world).1 ∧
      ∀ q ∈ pool.calls, InboundForm services facts (p.step pool.world).2 q := by
  -- all stages but the insertion only read
  have hreads : ∀ next, p.step pool.world = (next, pool.world) →
      InboundForm services facts pool.world next →
      InboundSound services (p.step pool.world).2 ∧
        InboundForm services facts (p.step pool.world).2 (p.step pool.world).1 ∧
        ∀ q ∈ pool.calls, InboundForm services facts (p.step pool.world).2 q := by
    intro next hstep hnext
    rw [hstep]
    exact ⟨hsound, hnext, hforms⟩
  cases hforms p hp with
  | raised e => exact hreads _ rfl (.raised e)
  | done hsource hkey hfacts => exact hreads _ rfl (.done hsource hkey hfacts)
  | @lookup call source hsource =>
    obtain ⟨next, hstep, hnext⟩ := step_lookup services call source pool.world
    refine hreads next hstep ?_
    rcases hnext with ⟨e, rfl⟩ | ⟨rfl, row, case, hread, hfacts⟩ | ⟨live, hnew, rfl, -⟩
    · exact .raised e
    · exact .respond hsource fun _ => factsHold_of_read hsound.holds hread hfacts
    · exact .insert hsource hnew
  | @recheck call source hsource =>
    obtain ⟨next, hstep, hnext⟩ := step_recheck services call source pool.world
    refine hreads next hstep ?_
    rcases hnext with ⟨e, rfl⟩ | ⟨rfl, row, case, hread, hfacts⟩
    · exact .raised e
    · exact .respond hsource fun _ => factsHold_of_read hsound.holds hread hfacts
  | @respond call source hsource hfacts =>
    obtain ⟨next, hstep, hnext⟩ := step_respond services call source pool.world
    refine hreads next hstep ?_
    rcases hnext with ⟨e, rfl⟩ | ⟨projection, hread, rfl⟩
    · exact .raised e
    · obtain ⟨hmem, hcell, hrecord⟩ := readCase_eq_ok hread
      exact .finish hsource (hsound.read_key hread) fun hf => hfacts hf _ hmem hcell _ hrecord
  | @finish call source projection hsource hkey hfacts =>
    obtain ⟨next, hstep, hnext⟩ := step_finish services call source projection pool.world
    refine hreads next hstep ?_
    rcases hnext with ⟨e, rfl⟩ | ⟨row, rfl⟩
    · exact .raised e
    · exact .last hsource hkey hfacts
  | @last call source projection row hsource hkey hfacts =>
    obtain ⟨next, hstep, hnext⟩ := step_last services call source projection row pool.world
    refine hreads next hstep ?_
    rcases hnext with ⟨e, rfl⟩ | ⟨response, hcase, rfl⟩
    · exact .raised e
    · exact .done hsource (hcase ▸ hkey) fun hf => hcase ▸ hfacts hf
  | @insert call source live hsource hnew =>
    obtain ⟨hid, hemail, hkey⟩ := newCase_eq_ok hnew
    obtain ⟨next, db', hstep, hcases⟩ := step_insert services call source live pool.world
    rcases hcases with ⟨result, hcommits, rfl⟩ | ⟨rfl, ⟨e, rfl⟩ | rfl⟩
    · have hinserts := inserts_of_commits hsound.holds hsound.lineage hcommits
      rw [hstep]
      refine ⟨hsound.insert hsha hinserts hkey hid, .respond hsource fun _ => ?_,
        fun q hq => (hforms q hq).inserts hinserts fun hf call' source' hsource' hform hid' => ?_⟩
      · rw [← hid]
        exact factsHold_of_inserts hinserts ⟨source, hemail, rfl, rfl⟩
      · subst hform
        obtain ⟨hfingerprint, hsame⟩ := hok hf call source live hsource rfl (hid ▸ hinserts.free)
          call' source' hsource' hq (hid'.trans hid)
        exact ⟨source, hemail, hfingerprint, hsame⟩
    · exact hreads _ hstep (.raised e)
    · exact hreads _ hstep (.recheck hsource)

/-! ### Requests whose case has other facts -/

/-- The case of a projection is there. -/
theorem readCase_ne_missing (h : presenterSchema.Holds db) {env : Env}
    (hrow : row ∈ db .caseProjection) (hid : row.cell .caseId = some (.text caseId)) {e : Raised}
    (he : readCase env db caseId = .error e) : e.cls ≠ .recordNotFound := by
  have hfk : TableName.toCase .caseProjection ∈ presenterSchema.foreignKeys :=
    mem_foreignKeys.mpr ⟨.caseProjection, List.mem_cons_self ..⟩
  obtain ⟨parent, hparent, hrefers⟩ := h.refers _ hfk row hrow fun c hc => by
    obtain rfl := List.mem_singleton.mp hc
    exact hid ▸ Option.some_ne_none _
  have hparentId : parent.cell .caseId = some (.text caseId) :=
    (hrefers (.caseId, .caseId) (List.mem_cons_self ..)).2.symm.trans hid
  have hfound : ∀ t, (∃ r ∈ db t, r.cell .caseId = some (.text caseId)) →
      ∃ r, rowOfCase db t caseId = some r := by
    rintro t ⟨r, hr, hcell⟩
    exact Option.isSome_iff_exists.mp (List.find?_isSome.mpr ⟨r, hr, decide_eq_true hcell⟩)
  obtain ⟨row', hrow'⟩ := hfound .caseProjection ⟨row, hrow, hid⟩
  obtain ⟨parent', hparent'⟩ := hfound .caseInstances ⟨parent, hparent, hparentId⟩
  have hdecode : ∀ {r : PresenterRow} {e : Raised}, decodeCase r = .error e →
      e.cls ≠ .recordNotFound := by
    intro r e he
    unfold decodeCase at he
    split at he
    · cases he
    · rw [← Except.error.inj he]
      decide
  unfold readCase at he
  rw [hrow'] at he
  dsimp only at he
  rcases hcase : decodeCase row' with e' | case <;> rw [hcase] at he
  · rw [← Except.error.inj he]
    exact hdecode hcase
  · unfold readStoredCase at he
    rw [hparent'] at he
    dsimp only at he
    rcases hstored : decodeCase parent' with e' | stored <;> rw [hstored] at he
    · rw [← Except.error.inj he]
      exact hdecode hstored
    · dsimp only at he
      by_cases hcells : CellsMatch parent' stored
      · rw [if_pos hcells] at he
        change (if _ then (if _ then _ else _) else _) = _ at he
        split at he
        · split at he
          · cases he
          · rw [← Except.error.inj he]
            decide
        · rw [← Except.error.inj he]
          decide
      · rw [if_neg hcells] at he
        rw [← Except.error.inj he]
        decide

/-- No stage of the request changes anything, and no look-up goes on. -/
structure Rejected (services : InboxServices) (call : InboundCall) (source : SupplierEmailSource)
    (db : PresenterDatabase) : Prop where
  lookup : ∃ e, (Stage.lookup.process services call source).step db = (.raise e, db)
  recheck : ∃ e, (Stage.recheck.process services call source).step db = (.raise e, db)
  insert : ∀ live, newCase services call (requestedId services call source) source = .ok live →
    ∃ next, ((Stage.insert live).process services call source).step db = (next, db) ∧
      ((∃ e, next = .raise e) ∨ next = Stage.recheck.process services call source)

theorem InboundSound.rejected (h : InboundSound services db) {case : CaseInstance}
    (hrow : row ∈ db .caseInstances) (hcase : row.record = .case case)
    (hkey : case.inboundKey? = some (source.key call.request.presenterRunId))
    (hfacts : ¬SameFacts case source) : Rejected services call source db := by
  have hid : row.cell .caseId = some (.text (requestedId services call source)) := by
    refine (h.bound _ (.inl rfl) row hrow).cell_of_key ?_
    rw [rowKey?, hcase]
    exact hkey
  obtain ⟨row', hrow', case', hcase', hcell, hemail⟩ := h.projected row hrow case hcase
  have hother : ∀ {r case''}, readCase services.env db (requestedId services call source) =
      .ok (r, case'') → ¬SameFacts case'' source := by
    rintro r case'' hread ⟨saved, hsaved, hsame⟩
    obtain ⟨hmem, hcell', hrecord⟩ := readCase_eq_ok hread
    obtain rfl := eq_of_caseId h.holds rfl hmem hrow' (hcell'.trans (hcell.trans hid).symm)
    rw [hcase'] at hrecord
    obtain rfl := Payload.case.inj hrecord
    exact hfacts ⟨saved, hemail ▸ hsaved, hsame⟩
  refine ⟨?_, ?_, fun live hnew => ?_⟩
  · obtain ⟨next, hstep, ⟨e, rfl⟩ | ⟨-, r, case'', hread, hsame⟩ | ⟨live, -, -, e, hread, hmissing⟩⟩ :=
      step_lookup services call source db
    · exact ⟨e, hstep⟩
    · exact absurd hsame (hother hread)
    · exact absurd hmissing (readCase_ne_missing h.holds hrow' (hcell.trans hid) hread)
  · obtain ⟨next, hstep, ⟨e, rfl⟩ | ⟨-, r, case'', hread, hsame⟩⟩ :=
      step_recheck services call source db
    · exact ⟨e, hstep⟩
    · exact absurd hsame (hother hread)
  · obtain ⟨hliveId, -⟩ := newCase_eq_ok hnew
    obtain ⟨next, db', hstep, ⟨result, hcommits, -⟩ | ⟨rfl, hnext⟩⟩ :=
      step_insert services call source live db
    · have hfree := (inserts_of_commits h.holds h.lineage hcommits).free
      exact absurd (hliveId ▸ hid) (hfree row hrow)
    · exact ⟨next, hstep, hnext⟩

/-! ### All requests -/

/-- Requests of any actors, for any messages and runs, with any answers from outside. -/
def InboundRequest (services : InboxServices) (p : InboundProcess) : Prop :=
  ∃ call, p = serve services call

theorem inbound_reaches (hsha : Function.Injective services.sha256) {facts : Prop}
    (hdb : InboundSound services db)
    {pool : Pool PresenterDatabase InboxFailure (InboundCall × CaseResponse)}
    (h : Pool.ReachesUnder (InboundRequest services)
      (fun pool p => facts → SettledInsert services pool p) ⟨db, []⟩ pool) :
    InboundSound services pool.world ∧
      ∀ q ∈ pool.calls, InboundForm services facts pool.world q := by
  refine Pool.ReachesUnder.invariant ?_ ?_ h hdb fun _ hp => absurd hp List.not_mem_nil
  · rintro w p ⟨call, rfl⟩ -
    exact form_serve services call facts w
  · intro pool p hp hsound hforms hok
    exact step_forms hsha hp hsound hforms hok

/-- From a database whose cases are bound, whatever the order of the actions: at most
one case for a key; a request answers with the case of its key, is rejected if that
has other facts, and does not prune what it inserts.  If the insertions are settled,
the answer has the fingerprint and the facts of the request. -/
theorem createInboundCase_idempotent (services : InboxServices)
    (hsha : Function.Injective services.sha256) (db : PresenterDatabase)
    (hdb : InboundSound services db) :
    (∀ pool, Pool.Reaches (InboundRequest services) ⟨db, []⟩ pool →
      OneCasePerKey pool.world ∧
      (∀ call response, .done (call, response) ∈ pool.calls →
        ∃ source, reviewedSource services call = .ok source ∧
          response.case.inboundKey? = some (source.key call.request.presenterRunId)) ∧
      (∀ call source row case, row ∈ pool.world .caseInstances → row.record = .case case →
        case.inboundKey? = some (source.key call.request.presenterRunId) →
        ¬SameFacts case source → Rejected services call source pool.world) ∧
      ∀ call source live result db',
        newCase services call (requestedId services call source) source = .ok live →
        (createPresenterCase services.env call.granted call.now live.1 live.2).Commits
          pool.world result db' →
        live.1.caseId ∉ result.plan.prunedCaseIds ∧
          caseRow live.1 call.now ∈ db' .caseInstances) ∧
    ∀ pool, Pool.ReachesUnder (InboundRequest services) (SettledInsert services) ⟨db, []⟩ pool →
      ∀ call response, .done (call, response) ∈ pool.calls →
        ∃ source, reviewedSource services call = .ok source ∧ SameFacts response.case source := by
  constructor
  · intro pool hreach
    have hunder : Pool.ReachesUnder (InboundRequest services)
        (fun pool p => False → SettledInsert services pool p) ⟨db, []⟩ pool := by
      refine Relation.ReflTransGen.mono (fun c c' hstep => ?_) _ _ hreach
      cases hstep with
      | start p hp => exact .start p hp
      | act before after p => exact .act before after p fun hf => hf.elim
    obtain ⟨hsound, hforms⟩ := inbound_reaches hsha hdb hunder
    refine ⟨hsound.oneCasePerKey hsha, fun call response hdone => ?_,
      fun call source row case hrow hcase hkey hfacts => hsound.rejected hrow hcase hkey hfacts,
      fun call source live result db' _ hcommits => ?_⟩
    · cases hforms _ hdone with
      | done hsource hkey _ => exact ⟨_, hsource, hkey⟩
    · have hinserts := inserts_of_commits hsound.holds hsound.lineage hcommits
      refine ⟨hinserts.kept, ?_⟩
      rw [hinserts.rows]
      exact List.mem_append_right _ (List.mem_singleton.mpr rfl)
  · intro pool hreach call response hdone
    have hunder : Pool.ReachesUnder (InboundRequest services)
        (fun pool p => True → SettledInsert services pool p) ⟨db, []⟩ pool := by
      refine Relation.ReflTransGen.mono (fun c c' hstep => ?_) _ _ hreach
      cases hstep with
      | start p hp => exact .start p hp
      | act before after p hok => exact .act before after p fun _ => hok
    obtain ⟨-, hforms⟩ := inbound_reaches hsha hdb hunder
    cases hforms _ hdone with
    | done hsource _ hfacts => exact ⟨_, hsource, hfacts trivial⟩

/-! ### A sample -/

def sampleTenant : String := "11111111-1111-1111-1111-111111111111"

def sampleMailbox : String := "44444444-4444-4444-4444-444444444444"

def sampleRun : String := "RL-RUN-00000000000000000000000000000000"

/-- SHA-256 of the keys of five messages. -/
def sampleDigests : List (InboundKey × String) :=
  [(⟨sampleTenant, sampleMailbox, "<m0>", sampleRun⟩,
      "76861c5ca530957ea1bcc8b5ce87bd8328b561bde2cb5ab3352dd3f00b7d2a59"),
    (⟨sampleTenant, sampleMailbox, "<m1>", sampleRun⟩,
      "90c31b20533a90fba08afdcd1703a4b2e49c3bafdf8f7223fa6b32654e25e67e"),
    (⟨sampleTenant, sampleMailbox, "<m2>", sampleRun⟩,
      "db361c415dbfef2005a7c9efe7f4ad9c7f5849a8901ca0a1cbbbe4e98112249d"),
    (⟨sampleTenant, sampleMailbox, "<m3>", sampleRun⟩,
      "05be9a4f4b25102583ca951d018c8c5a65c1fe7960e30a0a43c6508e4989b80c"),
    (⟨sampleTenant, sampleMailbox, "<m4>", sampleRun⟩,
      "c0bdac6ebd1da5cf9395d582798985df5a1941594dad3884c23013409024f2aa")]

/-- SHA-256 on the sample keys; elsewhere something that is no digest. -/
def sampleInboundSha256 (text : String) : String :=
  ((sampleDigests.find? fun entry => decide (entry.1.text = text)).map Prod.snd).getD ("x" ++ text)

theorem sampleInboundSha256_injective : Function.Injective sampleInboundSha256 := by
  have hhead : ∀ entry ∈ sampleDigests, entry.2.toList.head? ≠ some 'x' := by
    decide +kernel
  have hplain : ∀ entry ∈ sampleDigests, ∀ text, entry.2 ≠ "x" ++ text := by
    intro entry hentry text h
    refine hhead entry hentry ?_
    rw [h, String.toList_append]
    rfl
  have hdistinct : ∀ entry ∈ sampleDigests, ∀ entry' ∈ sampleDigests, entry.2 = entry'.2 →
      entry.1 = entry'.1 := by
    decide +kernel
  intro a b h
  unfold sampleInboundSha256 at h
  rcases ha : sampleDigests.find? (fun entry => decide (entry.1.text = a)) with _ | entry <;>
    rcases hb : sampleDigests.find? (fun entry => decide (entry.1.text = b)) with _ | entry' <;>
    rw [ha, hb] at h <;>
    simp only [Option.map_some, Option.map_none, Option.getD_some, Option.getD_none] at h
  · exact (String.append_right_inj _).mp h
  · exact absurd h.symm (hplain entry' (List.mem_of_find?_eq_some hb) a)
  · exact absurd h (hplain entry (List.mem_of_find?_eq_some ha) b)
  · have hkey := hdistinct entry (List.mem_of_find?_eq_some ha) entry'
      (List.mem_of_find?_eq_some hb) h
    have hta := List.find?_some ha
    have htb := List.find?_some hb
    rw [decide_eq_true_iff] at hta htb
    exact hta.symm.trans ((congrArg InboundKey.text hkey).trans htb)

def sampleInboxServices : InboxServices where
  env := samplePresenterEnv
  inboxService := true
  liveOperationalData := true
  independentFinanceEnabled := true
  sha256 := sampleInboundSha256

def sampleFacts : SupplierDisruptionFacts where
  originalQuantity := 10
  partId := "RL-MAT-1"
  plantName := "Chicago"
  originalDueDate := 0
  partialQuantity := 6
  partialDueDate := 1
  additionalCostPerUnit := 2
  remainingQuantity := 4
  recoveryDate := none

def sampleInboundSource (message : String) (fingerprint : Char) : SupplierEmailSource where
  tenantId := sampleTenant
  mailboxObjectId := sampleMailbox
  internetMessageId := message
  reviewFingerprint := String.ofList (List.replicate 64 fingerprint)
  messageId := "id"
  subject := "Delay"
  sender := "supplier"
  recipients := ["planner"]
  receivedAt := 0
  reviewedAt := 0
  citationUrl := "https://outlook.office.com/mail/deeplink/read/id"
  facts := sampleFacts

def sampleInboundSnapshot (caseId : String) : OperationalSnapshot :=
  { samplePresenterSnapshot caseId with
    disruption :=
      ⟨"d", "RL-SUP-ALPHA", "l", "RL-MAT-1", "RL-PLANT-CHI", 10, 0, 0, none, none, "r"⟩
    alphaExpedite := some ⟨"e", "RL-SUP-ALPHA", "RL-MAT-1", "RL-PLANT-CHI", 6, 1, 2⟩ }

def sampleInboundActor : AuthenticatedActor where
  tenantId := sampleTenant
  objectId := sampleMailbox
  personaId := "RL-PERSONA-ALEX"
  effectiveRoles := ["material_planner", "response_approver"]
  displayName := none
  userPrincipalName := none
  sourceId := "RL-ENTRA-ALEX"
  delegatedScopes := ["access_as_user"]
  downstreamUserAssertion := "token"

/-- A request that reviews a message with a fingerprint of equal digits. -/
def sampleInboundCall (message : String) (fingerprint : Char) (now : Instant)
    (hvalid : (3 ≤ message.length ∧ message.length ≤ 998) ∧
      IsSha256 (String.ofList (List.replicate 64 fingerprint))) : InboundCall where
  request := ⟨sampleRun, message, String.ofList (List.replicate 64 fingerprint),
    ⟨by decide +kernel, hvalid⟩⟩
  actor := some sampleInboundActor
  review := .ok (sampleInboundSource message fingerprint)
  retrieve caseId := .ok
    ({ samplePresenterCase caseId with supplierEmail := none }, sampleInboundSnapshot caseId)
  granted := true
  now := now

/-- The email of the response of a request, and the one that it reviewed. -/
def answeredWith (services : InboxServices) :
    InboundProcess → Option (Option SupplierEmailSource × Option SupplierEmailSource)
  | .done (call, response) =>
    some ((reviewedSource services call).toOption, response.case.supplierEmail)
  | _ => none

/-- Requests for five messages, and one for the first message when it has changed. -/
def sampleInboundCalls : List InboundProcess :=
  [sampleInboundCall "<m0>" 'a' 1 (by decide +kernel),
    sampleInboundCall "<m1>" 'a' 2 (by decide +kernel),
    sampleInboundCall "<m2>" 'a' 3 (by decide +kernel),
    sampleInboundCall "<m3>" 'a' 4 (by decide +kernel),
    sampleInboundCall "<m4>" 'a' 5 (by decide +kernel),
    sampleInboundCall "<m0>" 'b' 6 (by decide +kernel)].map (serve sampleInboxServices)

/-- The first request creates its case, the four others prune it, and the last one
creates it again before the first one responds. -/
def sampleInboundOrder : List ℕ := [0, 0, 1, 1, 2, 2, 3, 3, 4, 4, 5, 5, 0, 0, 0]

theorem inboundSound_empty (services : InboxServices) : InboundSound services fun _ => [] where
  holds := ⟨fun _ _ h => absurd h List.not_mem_nil, fun _ => List.Pairwise.nil,
    fun _ _ _ h => absurd h List.not_mem_nil⟩
  lineage := fun _ _ h => absurd h List.not_mem_nil
  bound _ _ _ h := absurd h List.not_mem_nil
  projected _ h := absurd h List.not_mem_nil

theorem sampleInboundCalls_started :
    Pool.Reaches (InboundRequest sampleInboxServices) ⟨fun _ => [], []⟩
      ⟨fun _ => [], sampleInboundCalls⟩ := by
  refine Pool.reaches_started (fun p hp => ?_) _
  obtain ⟨call, -, rfl⟩ := List.mem_map.mp hp
  exact ⟨call, rfl⟩

/-- The first request answers with a case of another fingerprint. -/
theorem sampleInbound_otherFacts : ∃ pool,
    Pool.Reaches (InboundRequest sampleInboxServices) ⟨fun _ => [], []⟩ pool ∧
      ∃ call response source, .done (call, response) ∈ pool.calls ∧
        reviewedSource sampleInboxServices call = .ok source ∧
        ¬SameFacts response.case source := by
  have hstarted := sampleInboundCalls_started
  refine ⟨_, hstarted.trans (Pool.reaches_schedule sampleInboundOrder _), ?_⟩
  have hanswer : ((sampleInboundOrder.foldl Pool.actAt
      ⟨fun _ => [], sampleInboundCalls⟩).calls.head?.bind (answeredWith sampleInboxServices)) =
      some (some (sampleInboundSource "<m0>" 'a'), some (sampleInboundSource "<m0>" 'b')) := by
    decide +kernel
  obtain ⟨p, hp, hanswered⟩ := Option.bind_eq_some_iff.mp hanswer
  have hmem := List.mem_of_mem_head? hp
  cases p with
  | raise e => cases hanswered
  | act action next => cases hanswered
  | done result =>
    obtain ⟨call, response⟩ := result
    obtain ⟨hreviewed, hemail⟩ := Prod.mk.inj (Option.some.inj hanswered)
    refine ⟨call, response, sampleInboundSource "<m0>" 'a', hmem, ?_, ?_⟩
    · rcases hsource : reviewedSource sampleInboxServices call with e | source
      · rw [hsource] at hreviewed
        cases hreviewed
      · rw [hsource] at hreviewed
        rw [Option.some.inj hreviewed]
    · rintro ⟨saved, hsaved, hfingerprint, -⟩
      rw [hemail] at hsaved
      obtain rfl := Option.some.inj hsaved
      have hne : (sampleInboundSource "<m0>" 'b').reviewFingerprint ≠
          (sampleInboundSource "<m0>" 'a').reviewFingerprint := by
        intro h
        exact absurd (String.ofList_injective h) (by decide)
      exact hne hfingerprint

/-- Two requests for one message, and one for the message when it has changed, side by side. -/
def sampleTwinCalls : List InboundProcess :=
  [sampleInboundCall "<m0>" 'a' 1 (by decide +kernel),
    sampleInboundCall "<m0>" 'a' 2 (by decide +kernel),
    sampleInboundCall "<m0>" 'b' 3 (by decide +kernel)].map (serve sampleInboxServices)

/-- The requests take turns. -/
def sampleTwinOrder : List ℕ := (List.replicate 7 [0, 1, 2]).flatten

/-- The request has ended with an exception. -/
def raised : InboundProcess → Bool
  | .raise _ => true
  | _ => false

/-- Two requests with one key that run side by side are answered with one case, and the one with
other facts is rejected. -/
theorem createInboundCase_idempotent_sample : ∃ pool,
    Pool.Reaches (InboundRequest sampleInboxServices) ⟨fun _ => [], []⟩ pool ∧
      OneCasePerKey pool.world ∧ (pool.world .caseInstances).length = 1 ∧
      pool.calls.map (answeredWith sampleInboxServices) =
        [some (some (sampleInboundSource "<m0>" 'a'), some (sampleInboundSource "<m0>" 'a')),
          some (some (sampleInboundSource "<m0>" 'a'), some (sampleInboundSource "<m0>" 'a')),
          none] ∧
      pool.calls.map raised = [false, false, true] := by
  have hsha : Function.Injective sampleInboxServices.sha256 := by
    dsimp only [sampleInboxServices]
    exact sampleInboundSha256_injective
  obtain ⟨hreached, -⟩ := createInboundCase_idempotent sampleInboxServices hsha _
    (inboundSound_empty sampleInboxServices)
  have hstarted : Pool.Reaches (InboundRequest sampleInboxServices) ⟨fun _ => [], []⟩
      ⟨fun _ => [], sampleTwinCalls⟩ := by
    refine Pool.reaches_started (fun p hp => ?_) _
    obtain ⟨call, -, rfl⟩ := List.mem_map.mp hp
    exact ⟨call, rfl⟩
  have hreach := hstarted.trans (Pool.reaches_schedule sampleTwinOrder _)
  refine ⟨_, hreach, (hreached _ hreach).1, ?_⟩
  decide +kernel

end SupplyResponse
