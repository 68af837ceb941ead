/-
The journal of Finance review revisions
(`services/persistence/finance_reviews.py`).

* `latestRow` — the row of greatest revision of a review;
* `getLatest`, `getRevision`, `getReviewByKey` — the reads, which re-check the
  review against its analysis;
* `appendReview` — the only writer: it replays a used key, and otherwise adds
  one canonical transition under the next revision number;
* `returns_appendReview` — what a successful append did.
-/
import SupplyResponse.Persistence.Cases
import SupplyResponse.Policy.FinanceReview

namespace SupplyResponse

open Transact Transact.Prog
open Keyed (keys)

variable (env : Env)

/-- `_require_bound_analysis`. -/
def requireBoundAnalysis (review : FinanceReview) : Sql Unit := do
  let proposal := review.proposal
  let analysis ← mapError (getAnalysis env proposal.analysisId) (fun cls => cls = .recordNotFound)
    ⟨.persistenceIntegrityError, "Finance review Analysis Version does not exist"⟩
  require (proposal.caseId = analysis.caseId ∧
      proposal.analysisMaterialHash = analysis.materialHash)
    ⟨.persistenceIntegrityError, "Finance proposal conflicts with immutable Analysis Version"⟩
  require (∃ material ∈ analysis.materialOption? proposal.optionId,
      (∃ predicted ∈ material.predicted, predicted.responseCost = proposal.responseCost) ∧
        ∃ outer ∈ analysis.option? proposal.optionId,
          AnalysisResponseOptionMaterial.fromOption outer = material)
    ⟨.persistenceIntegrityError,
      "Finance proposal option or evaluated cost conflicts with Analysis Version"⟩

theorem readOnly_getAnalysis (analysisId : String) : (getAnalysis env analysisId).ReadOnly :=
  (readOnly_getRow _ _ _).bind fun analysis =>
    (readOnly_mapError (readOnly_requireAnalysisProvenance env analysis) _ _).bind fun _ =>
      readOnly_done _

theorem readOnly_requireBoundAnalysis (review : FinanceReview) :
    (requireBoundAnalysis env review).ReadOnly :=
  (readOnly_mapError (readOnly_getAnalysis env _) _ _).bind fun _ =>
    (readOnly_require _ _).bind fun _ => readOnly_require _ _

/-! ### Reads -/

/-- `ORDER BY revision DESC LIMIT 1` for one review. -/
def latestRow (s : Store) (reviewId : String) : Option FinanceReviewRow :=
  s.reviews.latest (fun row => row.review.reviewId = reviewId) FinanceReviewRow.revision

/-- `_from_row`. -/
def reviewFromRow (row : FinanceReviewRow) : Sql (FinanceReview × Nat) := do
  requireBoundAnalysis env row.review
  pure (row.review, row.revision)

/-- `get_latest`. -/
def getLatest (reviewId : String) : Sql (FinanceReview × Nat) := do
  let row ← select fun s => latestRow s reviewId
  let row ← orRaise ⟨.recordNotFound, s!"finance review does not exist: {reviewId}"⟩ row
  reviewFromRow env row

/-- `get_revision`. -/
def getRevision (reviewId : String) (revision : Nat) : Sql FinanceReview := do
  require (0 < revision) ⟨.valueError, "revision must be a positive integer"⟩
  let row ← getRow Store.reviews (.review reviewId revision)
    ⟨.recordNotFound, s!"finance review revision does not exist: {reviewId}/{revision}"⟩
  let (review, _) ← reviewFromRow env row
  pure review

/-- `get_by_idempotency_key`. -/
def getReviewByKey (idempotencyKey : String) : Sql (Option (FinanceReview × Nat × String)) := do
  let row ← select fun s => s.reviews.get? (.reviewKey idempotencyKey)
  match row with
  | none => pure none
  | some row => do
    let (review, revision) ← reviewFromRow env row
    pure (some (review, revision, row.requestFingerprint))

theorem readOnly_reviewFromRow (row : FinanceReviewRow) : (reviewFromRow env row).ReadOnly :=
  (readOnly_requireBoundAnalysis env _).bind fun _ => readOnly_done _

theorem readOnly_getLatest (reviewId : String) : (getLatest env reviewId).ReadOnly :=
  (readOnly_select _).bind fun _ => (readOnly_orRaise _ _).bind fun row =>
    readOnly_reviewFromRow env row

theorem readOnly_getRevision (reviewId : String) (revision : Nat) :
    (getRevision env reviewId revision).ReadOnly :=
  (readOnly_require _ _).bind fun _ => (readOnly_getRow _ _ _).bind fun row =>
    (readOnly_reviewFromRow env row).bind fun _ => readOnly_done _

theorem readOnly_getReviewByKey (key : String) : (getReviewByKey env key).ReadOnly :=
  (readOnly_select _).bind fun row => by
    cases row with
    | none => exact readOnly_done _
    | some row => exact (readOnly_reviewFromRow env row).bind fun _ => readOnly_done _

theorem returns_reviewFromRow {row : FinanceReviewRow} {s s' : Store} {p : FinanceReview × Nat}
    (h : (reviewFromRow env row).Returns s p s') : p = (row.review, row.revision) ∧ s' = s := by
  have hs := (readOnly_reviewFromRow env row).eq h
  rw [reviewFromRow, (readOnly_requireBoundAnalysis env row.review).returns_bind] at h
  obtain ⟨_, -, h⟩ := h
  exact ⟨(returns_done.mp h).1, hs⟩

theorem returns_getLatest {reviewId : String} {s s' : Store} {p : FinanceReview × Nat}
    (h : (getLatest env reviewId).Returns s p s') :
    s' = s ∧ ∃ row, latestRow s reviewId = some row ∧ p = (row.review, row.revision) := by
  simp only [getLatest, returns_select_bind, returns_orRaise_bind] at h
  obtain ⟨row, hrow, h⟩ := h
  obtain ⟨hp, hs⟩ := returns_reviewFromRow env h
  exact ⟨hs, row, hrow, hp⟩

theorem returns_getRevision {reviewId : String} {revision : Nat} {s s' : Store}
    {r : FinanceReview} (h : (getRevision env reviewId revision).Returns s r s') :
    s' = s ∧ ∃ row, s.reviews.get? (.review reviewId revision) = some row ∧ r = row.review := by
  have hs := (readOnly_getRevision env reviewId revision).eq h
  simp only [getRevision, returns_require_bind, returns_getRow_bind] at h
  obtain ⟨-, row, hrow, h⟩ := h
  rw [(readOnly_reviewFromRow env row).returns_bind] at h
  obtain ⟨p, hp, h⟩ := h
  obtain ⟨rfl, -⟩ := returns_reviewFromRow env hp
  exact ⟨hs, row, hrow, (returns_done.mp h).1⟩

theorem returns_getReviewByKey {key : String} {s s' : Store}
    {o : Option (FinanceReview × Nat × String)} (h : (getReviewByKey env key).Returns s o s') :
    s' = s ∧ o = (s.reviews.get? (.reviewKey key)).map fun row =>
      (row.review, row.revision, row.requestFingerprint) := by
  have hs := (readOnly_getReviewByKey env key).eq h
  rw [getReviewByKey, returns_select_bind] at h
  rcases hrow : s.reviews.get? (.reviewKey key) with _ | row <;> rw [hrow] at h
  · exact ⟨hs, (returns_done.mp h).1⟩
  · obtain ⟨p, hp, h⟩ := (readOnly_reviewFromRow env row).returns_bind.mp h
    obtain ⟨rfl, -⟩ := returns_reviewFromRow env hp
    exact ⟨hs, (returns_done.mp h).1⟩

/-! ### Append -/

/-- `allowed`, the lifecycle graph of `append`. -/
def FinanceReviewStatus.allowedSuccessors : FinanceReviewStatus → List FinanceReviewStatus
  | pending => [approved, rejected, superseded]
  | approved => [superseded]
  | rejected => [superseded]
  | superseded => []

/-- The canonical first revision, or the exception of `append`. -/
def requireFirstRevision (review : FinanceReview) : Sql Unit := do
  require (review.status = .pending)
    ⟨.persistenceIntegrityError, "first Finance review revision must be pending"⟩
  let canonical ← mapError
    (ofExcept (submitFinanceReview review.reviewId review.proposal review.submittedBy
      review.submittedAt))
    (fun cls => cls = .financeReviewViolation)
    ⟨.persistenceIntegrityError, "first Finance review revision violates submission policy"⟩
  require (canonical = review)
    ⟨.persistenceIntegrityError, "first Finance review revision is not canonical"⟩

/-- The transition that `append` recomputes.  A superseded review has its time
and a resolved one its reviewer, so the defaults stand for the source's
assertions and are never used. -/
def canonicalTransition (previous review : FinanceReview) : Except Raised FinanceReview :=
  if review.status = .superseded then
    supersedeFinanceReview previous (review.supersededAt.getD 0)
  else
    resolveFinanceReview previous previous.proposal
      (review.reviewedBy.getD review.submittedBy) (review.status = .approved) review.reason
      (review.reviewedAt.getD 0)

/-- A canonical transition from the previous revision, or the exception of
`append`. -/
def requireTransition (previous review : FinanceReview) : Sql Unit := do
  require (review.status ∈ previous.status.allowedSuccessors ∧ previous.SameRequest review)
    ⟨.persistenceIntegrityError, "invalid Finance review lifecycle transition"⟩
  require (review.status = .superseded →
      review.reviewedBy = previous.reviewedBy ∧ review.reviewedAt = previous.reviewedAt ∧
        review.reason = previous.reason)
    ⟨.persistenceIntegrityError, "Finance supersession must preserve review metadata"⟩
  let canonical ← mapError (ofExcept (canonicalTransition previous review))
    (fun cls => cls = .financeReviewViolation)
    ⟨.persistenceIntegrityError, "Finance review revision violates lifecycle policy"⟩
  require (canonical = review)
    ⟨.persistenceIntegrityError, "Finance review revision is not a canonical transition"⟩

/-- The part of `append` that depends on the current revision. -/
def requireCanonical (review : FinanceReview) : Option (FinanceReview × Nat) → Sql Unit
  | none => requireFirstRevision review
  | some (previous, _) => requireTransition previous review

/-- `insert(finance_review_revisions)`. -/
def insertReview (row : FinanceReviewRow) : Sql Unit :=
  insertInto Store.reviews (fun s t => { s with reviews := t }) row

/-- The text of an optional revision in a message. -/
def revisionText (revision : Option Nat) : String := (revision.map toString).getD "None"

/-- `append`. -/
def appendReview (review : FinanceReview) (expectedRevision : Option Nat)
    (idempotencyKey requestFingerprint : String) : Sql (FinanceReview × Nat) := do
  require (∀ n ∈ expectedRevision, 0 < n)
    ⟨.valueError, "expected_revision must be a positive integer or None"⟩
  require (Nonblank idempotencyKey) ⟨.valueError, "idempotency_key must be nonblank"⟩
  require (IsSha256 requestFingerprint)
    ⟨.valueError, "request_fingerprint must be lowercase 64-hex"⟩
  let replay ← getReviewByKey env idempotencyKey
  match replay with
  | some (stored, revision, fingerprint) => do
    require (stored = review ∧ fingerprint = requestFingerprint)
      ⟨.financeReviewIdempotencyConflict, "Finance idempotency key was used for another request"⟩
    pure (stored, revision)
  | none => do
    let current ← (some <$> getLatest env review.reviewId).tryCatch fun e =>
      if e.cls = .recordNotFound then .done none else .raise e
    let currentRevision := current.map Prod.snd
    require (currentRevision = expectedRevision)
      ⟨.financeReviewRevisionConflict,
        s!"expected revision {revisionText expectedRevision}; current revision is {revisionText currentRevision}"⟩
    requireCanonical review current
    let revision := (currentRevision.getD 0) + 1
    requireBoundAnalysis env review
    insertReview
      { review := review
        revision := revision
        idempotencyKey := idempotencyKey
        requestFingerprint := requestFingerprint }
    pure (review, revision)

/-! ### What an append does -/

/-- A row that `append` may add: the next revision of its review, by a
transition of the lifecycle. -/
structure Appends (s : Store) (row : FinanceReviewRow) : Prop where
  free : s.reviews.Free row
  revision : row.revision = ((latestRow s row.review.reviewId).map FinanceReviewRow.revision).getD 0 + 1
  first : latestRow s row.review.reviewId = none → row.review.status = .pending
  next : ∀ previous, latestRow s row.review.reviewId = some previous →
    row.review.status ∈ previous.review.status.allowedSuccessors ∧
      previous.review.SameRequest row.review ∧
      canonicalTransition previous.review row.review = .ok row.review

theorem raisesOnly_requireBoundAnalysis (review : FinanceReview) :
    RaisesOnly (fun e => e.cls ≠ .recordNotFound) (requireBoundAnalysis env review) := by
  refine RaisesOnly.bind (RaisesOnly.tryCatch fun e => ?_) fun _ =>
    RaisesOnly.bind (raisesOnly_require (by decide)) fun _ => raisesOnly_require (by decide)
  split
  · exact raisesOnly_raise (by decide)
  · rename_i he
    exact raisesOnly_raise (by simpa using he)

/-- `get_latest` with `RecordNotFound` caught answers whether the review exists. -/
theorem returns_currentRevision {reviewId : String} {s s' : Store}
    {current : Option (FinanceReview × Nat)}
    (h : ((some <$> getLatest env reviewId).tryCatch fun e =>
      if e.cls = .recordNotFound then .done none else .raise e).Returns s current s') :
    s' = s ∧ current = (latestRow s reviewId).map fun row => (row.review, row.revision) := by
  rw [returns_tryCatch] at h
  rcases h with h | ⟨e, s₁, he, h⟩
  · obtain ⟨p, hp, rfl⟩ := returns_map.mp h
    obtain ⟨rfl, row, hrow, rfl⟩ := returns_getLatest env hp
    exact ⟨rfl, by rw [hrow]; rfl⟩
  · obtain ⟨hcls, h⟩ | ⟨-, h⟩ := returns_ite.mp h
    · obtain ⟨rfl, rfl⟩ := returns_done.mp h
      refine ⟨((readOnly_getLatest env reviewId).map some).run_eq he, ?_⟩
      -- a stored row is never reported as missing, whatever its analysis
      rcases hrow : latestRow s reviewId with _ | row
      · rfl
      · exfalso
        have hraise : RaisesOnly (fun e => e.cls ≠ .recordNotFound)
            (some <$> reviewFromRow env row) :=
          ((raisesOnly_requireBoundAnalysis env row.review).bind fun _ => raisesOnly_done _).bind
            fun _ => raisesOnly_done _
        refine hraise s e s' ?_ hcls
        rw [← he]
        show (reviewFromRow env row >>= fun p => done (some p)).run s =
          (getLatest env reviewId >>= fun p => done (some p)).run s
        unfold getLatest
        simp only [run_bind, select, run, hrow, orRaise]
    · exact absurd h returns_raise

theorem returns_requireFirstRevision {review : FinanceReview} {s s' : Store} {u : Unit}
    (h : (requireFirstRevision review).Returns s u s') : s' = s ∧ review.status = .pending := by
  simp only [requireFirstRevision, returns_require_bind] at h
  obtain ⟨hp, h⟩ := h
  rw [(readOnly_mapError (readOnly_ofExcept _) _ _).returns_bind] at h
  obtain ⟨_, -, h⟩ := h
  exact ⟨(returns_require.mp h).2, hp⟩

theorem returns_requireTransition {previous review : FinanceReview} {s s' : Store} {u : Unit}
    (h : (requireTransition previous review).Returns s u s') :
    s' = s ∧ review.status ∈ previous.status.allowedSuccessors ∧ previous.SameRequest review ∧
      canonicalTransition previous review = .ok review := by
  simp only [requireTransition, returns_require_bind] at h
  obtain ⟨⟨hs, hr⟩, -, h⟩ := h
  rw [(readOnly_mapError (readOnly_ofExcept _) _ _).returns_bind] at h
  obtain ⟨canonical, hc, h⟩ := h
  obtain ⟨rfl, rfl⟩ := returns_require.mp h
  exact ⟨rfl, hs, hr, (returns_ofExcept.mp (returns_mapError.mp hc)).1⟩

/-- A successful append replayed its key, or added the next revision. -/
theorem returns_appendReview {review : FinanceReview} {expectedRevision : Option Nat}
    {key fingerprint : String} {s s' : Store} {p : FinanceReview × Nat}
    (h : (appendReview env review expectedRevision key fingerprint).Returns s p s') :
    (s' = s ∧ ∃ row, s.reviews.get? (.reviewKey key) = some row ∧ row.review = review) ∨
      s.reviews.get? (.reviewKey key) = none ∧
        (latestRow s review.reviewId).map FinanceReviewRow.revision = expectedRevision ∧
        ∃ row, Appends s row ∧ row.review = review ∧ row.idempotencyKey = key ∧
          s' = { s with reviews := s.reviews.add row } := by
  simp only [appendReview, returns_require_bind] at h
  obtain ⟨-, -, -, h⟩ := h
  obtain ⟨replay, hreplay, hbody⟩ := (readOnly_getReviewByKey env key).returns_bind.mp h
  obtain ⟨-, rfl⟩ := returns_getReviewByKey env hreplay
  rcases hkey : s.reviews.get? (.reviewKey key) with _ | row <;>
    simp only [hkey, Option.map_none, Option.map_some] at hbody
  · right
    obtain ⟨current, s₁, hcurrent, hbody⟩ := returns_bind.mp hbody
    obtain ⟨rfl, rfl⟩ := returns_currentRevision env hcurrent
    obtain ⟨hrev, hbody⟩ := returns_require_bind.mp hbody
    obtain ⟨_, s₂, htrans, hbody⟩ := returns_bind.mp hbody
    obtain ⟨_, -, hbody⟩ := (readOnly_requireBoundAnalysis env review).returns_bind.mp hbody
    obtain ⟨_, s₃, hins, hbody⟩ := returns_bind.mp hbody
    obtain ⟨hfree, rfl⟩ := returns_insertInto.mp hins
    obtain ⟨-, rfl⟩ := returns_done.mp hbody
    rw [Option.map_map] at hrev hfree
    refine ⟨rfl, hrev, ?_⟩
    rcases hl : latestRow s₁ review.reviewId with _ | previous <;> rw [hl] at htrans hfree
    · obtain ⟨rfl, hpending⟩ := returns_requireFirstRevision htrans
      refine ⟨_, ⟨hfree, ?_, fun _ => hpending, ?_⟩, rfl, rfl, rfl⟩
      · simp only [hl, Option.map_none, Option.getD_none]
      · simp only [hl, reduceCtorEq, false_implies, implies_true]
    · obtain ⟨rfl, hs, hr, hc⟩ := returns_requireTransition htrans
      refine ⟨_, ⟨hfree, ?_, ?_, ?_⟩, rfl, rfl, rfl⟩
      · simp only [hl, Option.map_some, Option.getD_some, Function.comp_apply]
      · simp only [hl, reduceCtorEq, false_implies]
      · intro previous' hp
        rw [hl] at hp
        obtain rfl := Option.some.inj hp
        exact ⟨hs, hr, hc⟩
  · left
    obtain ⟨⟨hreview, -⟩, hbody⟩ := returns_require_bind.mp hbody
    exact ⟨(returns_done.mp hbody).2, row, rfl, hreview⟩

/-- An appended revision is stored under its key, and readable. -/
theorem returns_appendReview_row {review : FinanceReview} {expectedRevision : Option Nat}
    {key fingerprint : String} {s s' : Store} {p : FinanceReview × Nat}
    (h : (appendReview env review expectedRevision key fingerprint).Returns s p s')
    (hkey : s.reviews.get? (.reviewKey key) = none) :
    (requireBoundAnalysis env review).Returns s () s ∧
      ∃ row, s'.reviews.get? (.reviewKey key) = some row ∧ row.review = review ∧
        row.requestFingerprint = fingerprint ∧ p = (row.review, row.revision) := by
  simp only [appendReview, returns_require_bind] at h
  obtain ⟨-, -, -, h⟩ := h
  obtain ⟨replay, hreplay, hbody⟩ := (readOnly_getReviewByKey env key).returns_bind.mp h
  obtain ⟨-, rfl⟩ := returns_getReviewByKey env hreplay
  simp only [hkey, Option.map_none] at hbody
  obtain ⟨current, s₁, hcurrent, hrest⟩ := returns_bind.mp hbody
  obtain ⟨rfl, -⟩ := returns_currentRevision env hcurrent
  obtain ⟨-, hrest⟩ := returns_require_bind.mp hrest
  obtain ⟨_, s₂, htrans, hinsert⟩ := returns_bind.mp hrest
  obtain rfl : s₂ = s₁ := by
    cases current with
    | none => exact (returns_requireFirstRevision htrans).1
    | some previous => exact (returns_requireTransition htrans).1
  obtain ⟨_, hbound, hinsert⟩ :=
    (readOnly_requireBoundAnalysis env review).returns_bind.mp hinsert
  obtain ⟨_, s₃, hins, hdone⟩ := returns_bind.mp hinsert
  obtain ⟨hfree, rfl⟩ := returns_insertInto.mp hins
  obtain ⟨rfl, rfl⟩ := returns_done.mp hdone
  refine ⟨hbound, ⟨review, _, key, fingerprint⟩, ?_, rfl, rfl, rfl⟩
  rw [Table.get?_add hfree, if_pos (by simp)]

end SupplyResponse
