/-
The journal of Finance review revisions, over any sequence of appends.

* `FailsClean` — a program that leaves the database alone when it raises;
* `ReviewLifecycle` — the revisions of one review, from the canonical submission on;
* `JournalSound` — every review has a lifecycle, and every row can be read and replayed;
* `review_journal` — lifecycles, reused keys and failed calls in every reachable database.
-/
import Mathlib.Data.List.Chain
import Mathlib.Logic.Relation
import SupplyResponse.Runs.Replays
import SupplyResponse.Runs.Reviews
import SupplyResponse.Runs.Stability

namespace SupplyResponse

open Transact Transact.Prog
open Keyed (keys)

/-! ### Programs that fail without a trace -/

/-- Where the program raises, nothing is written. -/
def FailsClean {α : Type} (p : Sql α) : Prop := ∀ s e s', p.run s = (.error e, s') → s' = s

section

variable {α β : Type}

theorem FailsClean.of_readOnly {p : Sql α} (h : p.ReadOnly) : FailsClean p := by
  intro s e s' hrun
  have hstate := h.run_snd s
  rw [hrun] at hstate
  exact hstate

theorem FailsClean.bind {p : Sql α} {f : α → Sql β} (hp : p.ReadOnly)
    (hf : ∀ a, FailsClean (f a)) : FailsClean (p >>= f) := by
  intro s e s' hrun
  rw [run_bind] at hrun
  have hstate := hp.run_snd s
  split at hrun
  · rename_i a s₁ hp
    rw [hp] at hstate
    rw [← hstate]
    exact hf a s₁ e s' hrun
  · rename_i e' s₁ hp
    rw [hp] at hstate
    exact (Prod.mk.inj hrun).2.symm.trans hstate

/-- What cannot raise may follow a write. -/
theorem FailsClean.map {p : Sql α} (hp : FailsClean p) (f : α → β) :
    FailsClean (p >>= fun a => pure (f a)) := by
  intro s e s' hrun
  rw [run_bind] at hrun
  split at hrun
  · cases hrun
  · rename_i e' s₁ hraise
    exact (Prod.mk.inj hrun).2.symm.trans (hp s e' s₁ hraise)

theorem failsClean_insertReview (row : FinanceReviewRow) : FailsClean (insertReview row) := by
  intro s e s' hrun
  unfold insertReview insertInto at hrun
  simp only [write, require, Bind.bind, Prog.bind, run] at hrun
  split at hrun
  · split at hrun
    · cases hrun
    · rename_i hno
      exact absurd rfl hno
  · split at hrun
    · cases hrun
    · exact (Prod.mk.inj hrun).2.symm

end

/-! ### Calls -/

/-- The arguments of a call of `append`. -/
structure ReviewCall where
  review : FinanceReview
  expectedRevision : Option Nat
  idempotencyKey : String
  requestFingerprint : String

variable (env : Env)

def ReviewCall.program (call : ReviewCall) : Sql (FinanceReview × Nat) :=
  appendReview env call.review call.expectedRevision call.idempotencyKey call.requestFingerprint

theorem readOnly_requireFirstRevision (review : FinanceReview) :
    (requireFirstRevision review).ReadOnly :=
  (readOnly_require _ _).bind fun _ => (readOnly_mapError (readOnly_ofExcept _) _ _).bind fun _ =>
    readOnly_require _ _

theorem readOnly_requireTransition (previous review : FinanceReview) :
    (requireTransition previous review).ReadOnly :=
  (readOnly_require _ _).bind fun _ => (readOnly_require _ _).bind fun _ =>
    (readOnly_mapError (readOnly_ofExcept _) _ _).bind fun _ => readOnly_require _ _

theorem readOnly_requireCanonical (review : FinanceReview)
    (current : Option (FinanceReview × Nat)) : (requireCanonical review current).ReadOnly := by
  cases current with
  | none => exact readOnly_requireFirstRevision review
  | some previous => exact readOnly_requireTransition previous.1 review

/-- A call that raises inserts nothing. -/
theorem failsClean_program (call : ReviewCall) : FailsClean (call.program env) := by
  refine .bind (readOnly_require _ _) fun _ => .bind (readOnly_require _ _) fun _ =>
    .bind (readOnly_require _ _) fun _ => .bind (readOnly_getReviewByKey env _) fun replay => ?_
  cases replay with
  | some stored =>
    exact .of_readOnly ((readOnly_require _ _).bind fun _ => readOnly_done _)
  | none =>
    refine .bind (((readOnly_getLatest env _).map _).tryCatch fun e => ?_) fun current => ?_
    · split
      · exact readOnly_done _
      · exact readOnly_raise _
    · exact .bind (readOnly_require _ _) fun _ => .bind (readOnly_requireCanonical _ _) fun _ =>
        .bind (readOnly_requireBoundAnalysis env _) fun _ => (failsClean_insertReview _).map _

/-! ### Canonical revisions -/

theorem returns_requireFirstRevision_canonical {review : FinanceReview} {s s' : Store} {u : Unit}
    (h : (requireFirstRevision review).Returns s u s') :
    submitFinanceReview review.reviewId review.proposal review.submittedBy review.submittedAt =
      .ok review := by
  simp only [requireFirstRevision, returns_require_bind] at h
  obtain ⟨-, h⟩ := h
  rw [(readOnly_mapError (readOnly_ofExcept _) _ _).returns_bind] at h
  obtain ⟨canonical, hcanonical, h⟩ := h
  obtain ⟨rfl, -⟩ := returns_require.mp h
  exact (returns_ofExcept.mp (returns_mapError.mp hcanonical)).1

theorem returns_requireTransition_metadata {previous review : FinanceReview} {s s' : Store}
    {u : Unit} (h : (requireTransition previous review).Returns s u s') :
    review.status = .superseded → review.reviewedBy = previous.reviewedBy ∧
      review.reviewedAt = previous.reviewedAt ∧ review.reason = previous.reason := by
  simp only [requireTransition, returns_require_bind] at h
  exact h.2.1

/-- `_recorded_at`. -/
def FinanceReview.recordedAt (review : FinanceReview) : Instant :=
  (review.supersededAt <|> review.reviewedAt).getD review.submittedAt

/-- A revision follows another one. -/
structure FinanceReview.Follows (previous review : FinanceReview) : Prop where
  allowed : review.status ∈ previous.status.allowedSuccessors
  request : previous.SameRequest review
  metadata : review.status = .superseded → review.reviewedBy = previous.reviewedBy ∧
    review.reviewedAt = previous.reviewedAt ∧ review.reason = previous.reason

theorem FinanceReview.recordedAt_pending {review : FinanceReview} (h : review.status = .pending) :
    review.recordedAt = review.submittedAt := by
  have hadmits := review.valid.2.2.2.2.2.2
  rw [h] at hadmits
  obtain ⟨-, hreviewed, -, hsuperseded⟩ := hadmits
  unfold recordedAt
  rw [hreviewed, hsuperseded]
  rfl

theorem FinanceReview.recordedAt_resolved {review : FinanceReview}
    (h : review.status = .approved ∨ review.status = .rejected) :
    review.reviewedAt = some review.recordedAt := by
  have hadmits := review.valid.2.2.2.2.2.2
  have hfields : review.reviewedAt.isSome ∧ review.supersededAt = none := by
    rcases h with h | h <;> rw [h] at hadmits
    · exact hadmits.2
    · exact ⟨hadmits.2.1, hadmits.2.2.1⟩
  obtain ⟨time, htime⟩ := Option.isSome_iff_exists.mp hfields.1
  unfold recordedAt
  rw [hfields.2, htime]
  rfl

theorem FinanceReview.recordedAt_superseded {review : FinanceReview}
    (h : review.status = .superseded) : review.supersededAt = some review.recordedAt := by
  have hadmits := review.valid.2.2.2.2.2.2
  rw [h] at hadmits
  obtain ⟨time, htime⟩ := Option.isSome_iff_exists.mp hadmits
  unfold recordedAt
  rw [htime]
  rfl

/-- Times do not run backwards from a revision to the next. -/
theorem FinanceReview.Follows.recordedAt_le {previous review : FinanceReview}
    (h : previous.Follows review) : previous.recordedAt ≤ review.recordedAt := by
  obtain ⟨-, hreviewed, hsuperseded, hboth, -⟩ := review.valid
  obtain ⟨-, -, -, hsubmitted⟩ := h.request
  have hallowed := h.allowed
  cases hstatus : previous.status with
  | pending =>
    rw [recordedAt_pending hstatus, ← hsubmitted]
    rw [hstatus] at hallowed
    simp only [FinanceReviewStatus.allowedSuccessors, List.mem_cons, List.not_mem_nil,
      or_false] at hallowed
    rcases hallowed with hallowed | hallowed | hallowed
    · exact hreviewed _ (recordedAt_resolved (.inl hallowed))
    · exact hreviewed _ (recordedAt_resolved (.inr hallowed))
    · exact hsuperseded _ (recordedAt_superseded hallowed)
  | approved =>
    rw [hstatus] at hallowed
    have hend : review.status = .superseded := List.mem_singleton.mp hallowed
    refine hboth _ (recordedAt_superseded hend) _ ?_
    rw [(h.metadata hend).2.1]
    exact recordedAt_resolved (.inl hstatus)
  | rejected =>
    rw [hstatus] at hallowed
    have hend : review.status = .superseded := List.mem_singleton.mp hallowed
    refine hboth _ (recordedAt_superseded hend) _ ?_
    rw [(h.metadata hend).2.1]
    exact recordedAt_resolved (.inr hstatus)
  | superseded =>
    rw [hstatus] at hallowed
    cases hallowed

/-! ### The revisions of one review -/

/-- The rows of a review, as they were inserted. -/
def revisions (s : Store) (reviewId : String) : List FinanceReviewRow :=
  s.reviews.rows.filter fun row => row.review.reviewId = reviewId

/-- Revisions that follow one another from the canonical submission. -/
structure ReviewChain (rows : List FinanceReviewRow) : Prop where
  numbered : rows.map FinanceReviewRow.revision = List.range' 1 rows.length
  first : ∀ row ∈ rows.head?, submitFinanceReview row.review.reviewId row.review.proposal
    row.review.submittedBy row.review.submittedAt = .ok row.review
  follows : rows.IsChain fun row next => row.review.Follows next.review

theorem ReviewChain.nil : ReviewChain [] where
  numbered := rfl
  first := by
    intro row hrow
    cases hrow
  follows := .nil

theorem ReviewChain.append {rows : List FinanceReviewRow} {row : FinanceReviewRow}
    (h : ReviewChain rows) (hrevision : row.revision = rows.length + 1)
    (hfirst : rows = [] → submitFinanceReview row.review.reviewId row.review.proposal
      row.review.submittedBy row.review.submittedAt = .ok row.review)
    (hnext : ∀ last ∈ rows.getLast?, last.review.Follows row.review) :
    ReviewChain (rows ++ [row]) where
  numbered := by
    rw [List.map_append, h.numbered, List.length_append, List.length_singleton,
      List.range'_concat, List.map_singleton, hrevision]
    simp [Nat.add_comm]
  first := by
    intro first hmem
    cases rows with
    | nil =>
      rw [List.nil_append, List.head?_cons, Option.mem_some_iff] at hmem
      exact hmem ▸ hfirst rfl
    | cons head rows => exact h.first first hmem
  follows := by
    refine List.isChain_append.mpr ⟨h.follows, .singleton row, fun last hlast next hmem => ?_⟩
    rw [List.head?_cons, Option.mem_some_iff] at hmem
    exact hmem ▸ hnext last hlast

/-- A resolution by the reviewer. -/
def FinanceReview.IsResolved (review : FinanceReview) : Prop :=
  review.status = .approved ∨ review.status = .rejected

instance (review : FinanceReview) : Decidable review.IsResolved :=
  inferInstanceAs (Decidable (_ ∨ _))

/-- The revisions of one review: numbered from the canonical pending submission on,
along the lifecycle, of one request, with at most one resolution that a supersession
keeps, and in the order of their times. -/
structure ReviewLifecycle (rows : List FinanceReviewRow) : Prop where
  numbered : rows.map FinanceReviewRow.revision = List.range' 1 rows.length
  first : ∀ row ∈ rows.head?, row.review.status = .pending ∧
    submitFinanceReview row.review.reviewId row.review.proposal row.review.submittedBy
      row.review.submittedAt = .ok row.review
  transitions : rows.IsChain fun row next =>
    next.review.status ∈ row.review.status.allowedSuccessors
  request : rows.Pairwise fun row later => later.review.proposal = row.review.proposal ∧
    later.review.submittedBy = row.review.submittedBy ∧
      later.review.submittedAt = row.review.submittedAt
  resolutions : rows.countP (fun row => row.review.IsResolved) ≤ 1
  metadata : rows.Pairwise fun row later => row.review.IsResolved →
    later.review.reviewedBy = row.review.reviewedBy ∧
      later.review.reviewedAt = row.review.reviewedAt ∧ later.review.reason = row.review.reason
  times : rows.Pairwise fun row later => row.review.recordedAt ≤ later.review.recordedAt

/-- After a resolution there is only its supersession. -/
theorem FinanceReview.Follows.superseded {previous review : FinanceReview}
    (h : previous.Follows review) (hresolved : previous.IsResolved) :
    review.status = .superseded := by
  have hallowed := h.allowed
  rcases hresolved with hstatus | hstatus <;> rw [hstatus] at hallowed <;>
    exact List.mem_singleton.mp hallowed

theorem FinanceReview.Follows.not_superseded {previous review : FinanceReview}
    (h : previous.Follows review) : previous.status ≠ .superseded := by
  intro hstatus
  have hallowed := h.allowed
  rw [hstatus] at hallowed
  cases hallowed

theorem FinanceReview.Follows.not_pending {previous review : FinanceReview}
    (h : previous.Follows review) : review.status ≠ .pending := by
  intro hpending
  have hallowed := h.allowed
  rw [hpending] at hallowed
  cases hstatus : previous.status <;> rw [hstatus] at hallowed <;>
    exact absurd hallowed (by decide)

/-- A review has at most three revisions: submission, resolution, supersession. -/
theorem ReviewChain.cases {rows : List FinanceReviewRow} (h : ReviewChain rows) :
    rows = [] ∨ (∃ a, rows = [a] ∧ a.review.status = .pending) ∨
      (∃ a b, rows = [a, b] ∧ a.review.status = .pending ∧ a.review.Follows b.review) ∨
      ∃ a b c, rows = [a, b, c] ∧ a.review.status = .pending ∧ a.review.Follows b.review ∧
        b.review.Follows c.review ∧ b.review.IsResolved ∧ c.review.status = .superseded := by
  match rows, h with
  | [], _ => exact .inl rfl
  | a :: rest, h =>
    have hpending : a.review.status = .pending :=
      (submitFinanceReview_spec (h.first a rfl)).2.2.2.2
    refine .inr ?_
    match rest, h with
    | [], _ => exact .inl ⟨a, rfl, hpending⟩
    | b :: rest, h =>
      obtain ⟨hab, hchain⟩ := List.isChain_cons_cons.mp h.follows
      refine .inr ?_
      match rest, hchain with
      | [], _ => exact .inl ⟨a, b, rfl, hpending, hab⟩
      | c :: rest, hchain =>
        obtain ⟨hbc, hchain⟩ := List.isChain_cons_cons.mp hchain
        have hresolved : b.review.IsResolved := by
          have hnot := hab.not_pending
          have hlive := hbc.not_superseded
          unfold FinanceReview.IsResolved
          cases hstatus : b.review.status <;> simp_all
        have hend := hbc.superseded hresolved
        match rest, hchain with
        | [], _ => exact .inr ⟨a, b, c, rfl, hpending, hab, hbc, hresolved, hend⟩
        | d :: rest, hchain =>
          exact absurd hend (List.isChain_cons_cons.mp hchain).1.not_superseded

theorem ReviewChain.lifecycle {rows : List FinanceReviewRow} (h : ReviewChain rows) :
    ReviewLifecycle rows := by
  have hfirst : ∀ row ∈ rows.head?, row.review.status = .pending ∧
      submitFinanceReview row.review.reviewId row.review.proposal row.review.submittedBy
        row.review.submittedAt = .ok row.review :=
    fun row hrow => ⟨(submitFinanceReview_spec (h.first row hrow)).2.2.2.2, h.first row hrow⟩
  have htransitions : rows.IsChain fun row next =>
      next.review.status ∈ row.review.status.allowedSuccessors :=
    h.follows.imp fun _ _ hfollows => hfollows.allowed
  have hunresolved : ∀ {r : FinanceReview}, r.status = .pending → ¬r.IsResolved := by
    intro r hpending hresolved
    rcases hresolved with hstatus | hstatus <;> rw [hpending] at hstatus <;> cases hstatus
  have hsuperseded : ∀ {r : FinanceReview}, r.status = .superseded → ¬r.IsResolved := by
    intro r hend hresolved
    rcases hresolved with hstatus | hstatus <;> rw [hend] at hstatus <;> cases hstatus
  refine ⟨h.numbered, hfirst, htransitions, ?_, ?_, ?_, ?_⟩
  all_goals
    rcases h.cases with rfl | ⟨a, rfl, ha⟩ | ⟨a, b, rfl, ha, hab⟩ |
      ⟨a, b, c, rfl, ha, hab, hbc, hb, hc⟩
  -- one request
  · exact .nil
  · exact List.pairwise_singleton _ _
  · simp [hab.request.2.1, hab.request.2.2.1, hab.request.2.2.2]
  · have hac := hab.request.trans hbc.request
    simp [hab.request.2.1, hab.request.2.2.1, hab.request.2.2.2, hbc.request.2.1,
      hbc.request.2.2.1, hbc.request.2.2.2]
  -- at most one resolution
  · exact Nat.zero_le _
  · exact List.countP_le_length
  · rw [List.countP_cons_of_neg (by simpa using hunresolved ha)]
    exact List.countP_le_length
  · rw [List.countP_cons_of_neg (by simpa using hunresolved ha),
      List.countP_cons_of_pos (by simpa using hb),
      List.countP_cons_of_neg (by simpa using hsuperseded hc)]
    exact le_refl 1
  -- the reviewer
  · exact .nil
  · exact List.pairwise_singleton _ _
  · simp [hunresolved ha]
  · simp [hunresolved ha, hbc.metadata hc]
  -- the times
  · exact .nil
  · exact List.pairwise_singleton _ _
  · simp [hab.recordedAt_le]
  · simp [hab.recordedAt_le, hbc.recordedAt_le, hab.recordedAt_le.trans hbc.recordedAt_le]

/-! ### Appends -/

variable {env} {s s' : Store}

theorem mem_revisions {reviewId : String} {row : FinanceReviewRow} :
    row ∈ revisions s reviewId ↔ row ∈ s.reviews ∧ row.review.reviewId = reviewId := by
  unfold revisions
  rw [List.mem_filter, decide_eq_true_eq]
  exact Iff.rfl

theorem ReviewChain.revision_getLast? {rows : List FinanceReviewRow} {last : FinanceReviewRow}
    (h : ReviewChain rows) (hlast : rows.getLast? = some last) : last.revision = rows.length := by
  have hnumber := congrArg List.getLast? h.numbered
  rw [List.getLast?_map, hlast, List.getLast?_range'] at hnumber
  cases rows with
  | nil => cases hlast
  | cons row rows =>
    rw [if_neg (by simp)] at hnumber
    have hvalue := Option.some.inj hnumber
    omega

/-- The latest revision is the last one. -/
theorem ReviewChain.latestRow_eq {reviewId : String} (h : ReviewChain (revisions s reviewId)) :
    latestRow s reviewId = (revisions s reviewId).getLast? := by
  cases hlast : (revisions s reviewId).getLast? with
  | none =>
    refine Table.latest_eq_none.mpr fun row hrow => ?_
    rw [decide_eq_false_iff_not]
    intro hid
    have hmem := mem_revisions.mpr ⟨hrow, hid⟩
    rw [List.getLast?_eq_none_iff.mp hlast] at hmem
    cases hmem
  | some last =>
    obtain ⟨hstored, hid⟩ := mem_revisions.mp (List.mem_of_getLast? hlast)
    obtain ⟨latest, hlatest⟩ := exists_latestRow hstored
    rw [hid] at hlatest
    obtain ⟨hmem, hlatestId, hmax⟩ := Table.latest_spec hlatest
    rw [decide_eq_true_eq] at hlatestId
    have hge := hmax last hstored (decide_eq_true hid)
    have hbound : latest.revision ∈ List.range' 1 (revisions s reviewId).length := by
      rw [← h.numbered]
      exact List.mem_map_of_mem (mem_revisions.mpr ⟨hmem, hlatestId⟩)
    have hlength := h.revision_getLast? hlast
    rw [List.mem_range'_1] at hbound
    have hrevision : latest.revision = last.revision := by omega
    rw [hlatest]
    refine congrArg some (Table.eq_of_key (k := Key.review reviewId last.revision) hmem hstored ?_ ?_)
    · rw [← hrevision, ← hlatestId]
      exact List.mem_cons_self ..
    · rw [← hid]
      exact List.mem_cons_self ..

/-- What a new revision was checked for. -/
theorem returns_program_canonical {call : ReviewCall} {p : FinanceReview × Nat}
    (h : (call.program env).Returns s p s')
    (hkey : s.reviews.get? (.reviewKey call.idempotencyKey) = none) :
    Nonblank call.idempotencyKey ∧ IsSha256 call.requestFingerprint ∧
      (requireCanonical call.review ((latestRow s call.review.reviewId).map fun row =>
        (row.review, row.revision))).Returns s () s := by
  simp only [ReviewCall.program, appendReview, returns_require_bind] at h
  obtain ⟨-, hnonblank, hsha, h⟩ := h
  refine ⟨hnonblank, hsha, ?_⟩
  obtain ⟨replay, hreplay, hbody⟩ := (readOnly_getReviewByKey env _).returns_bind.mp h
  obtain ⟨-, rfl⟩ := returns_getReviewByKey env hreplay
  simp only [hkey, Option.map_none] at hbody
  obtain ⟨current, s₁, hcurrent, hrest⟩ := returns_bind.mp hbody
  obtain ⟨rfl, rfl⟩ := returns_currentRevision env hcurrent
  obtain ⟨-, hrest⟩ := returns_require_bind.mp hrest
  obtain ⟨_, hcanonical, -⟩ := (readOnly_requireCanonical _ _).returns_bind.mp hrest
  exact hcanonical

/-- Every review has a chain of revisions, and every row can be read and replayed. -/
structure JournalSound (env : Env) (s : Store) : Prop where
  chains : ∀ reviewId, ReviewChain (revisions s reviewId)
  readable : ∀ row ∈ s.reviews, (reviewFromRow env row).Returns s (row.review, row.revision) s
  valid : ∀ row ∈ s.reviews, Nonblank row.idempotencyKey ∧ IsSha256 row.requestFingerprint

theorem JournalSound.congr (h : JournalSound env s) (hreviews : s'.reviews = s.reviews)
    (hgrows : Grows s s') : JournalSound env s' where
  chains reviewId := by
    unfold revisions
    rw [hreviews]
    exact h.chains reviewId
  readable row hrow := by
    rw [hreviews] at hrow
    exact (lasting_reviewFromRow env row).lasts hgrows (h.readable row hrow)
  valid row hrow := by
    rw [hreviews] at hrow
    exact h.valid row hrow

theorem grows_addReview {row : FinanceReviewRow} :
    Grows s { s with reviews := s.reviews.add row } :=
  ⟨id, id, id, id, Table.get?_add_of_some, id⟩

theorem revisions_add {row : FinanceReviewRow} (hfree : s.reviews.Free row) (reviewId : String) :
    revisions { s with reviews := s.reviews.add row } reviewId =
      if row.review.reviewId = reviewId then revisions s reviewId ++ [row]
      else revisions s reviewId := by
  unfold revisions
  dsimp only
  rw [Table.rows_add hfree, List.filter_append]
  split
  · rename_i hid
    rw [List.filter_cons_of_pos (by simpa using hid), List.filter_nil]
  · rename_i hid
    rw [List.filter_cons_of_neg (by simpa using hid), List.filter_nil, List.append_nil]

/-- A call keeps the journal sound, whether it returns or raises. -/
theorem JournalSound.call (h : JournalSound env s) (call : ReviewCall) :
    JournalSound env ((call.program env).run s).2 := by
  cases hrun : (call.program env).run s with
  | mk result s' =>
    cases result with
    | error e =>
      rw [failsClean_program env call s e s' hrun]
      exact h
    | ok p =>
      have hreturns : (call.program env).Returns s p s' := hrun
      rcases returns_appendReview env hreturns with ⟨rfl, -⟩ | ⟨hkey, -, row, happend, hreview, hid, rfl⟩
      · exact h
      obtain ⟨hnonblank, hsha, hcanonical⟩ := returns_program_canonical hreturns hkey
      obtain ⟨hbound, stored, hstored, hstoredReview, hfingerprint, -⟩ :=
        returns_appendReview_row env hreturns hkey
      have hsame : stored = row := by
        have hfound := Table.get?_add happend.free (.reviewKey call.idempotencyKey)
        rw [if_pos (by rw [← hid]; exact List.mem_cons_of_mem _ (List.mem_cons_self ..))] at hfound
        exact Option.some.inj (hstored.symm.trans hfound)
      subst hsame
      have hchain := h.chains stored.review.reviewId
      have hlatest := hchain.latestRow_eq
      rw [← hreview] at hcanonical
      refine ⟨fun reviewId => ?_, fun other hother => ?_, fun other hother => ?_⟩
      · rw [revisions_add happend.free]
        split
        · rename_i hreviewId
          subst hreviewId
          have hrevision := happend.revision
          rw [hlatest] at hrevision hcanonical
          cases hlast : (revisions s stored.review.reviewId).getLast? with
          | none =>
            have hnil := List.getLast?_eq_none_iff.mp hlast
            rw [hlast] at hrevision hcanonical
            refine hchain.append (by rw [hnil]; exact hrevision)
              (fun _ => returns_requireFirstRevision_canonical hcanonical) fun last hmem => ?_
            rw [hlast] at hmem
            cases hmem
          | some last =>
            rw [hlast] at hrevision hcanonical
            have hnumber := hchain.revision_getLast? hlast
            obtain ⟨hallowed, hrequest, -⟩ := happend.next last (hlatest.trans hlast)
            refine hchain.append ?_ (fun hnil => ?_) fun last' hmem => ?_
            · rw [← hnumber]
              exact hrevision
            · rw [hnil] at hlast
              cases hlast
            · rw [hlast, Option.mem_some_iff] at hmem
              subst hmem
              exact ⟨hallowed, hrequest, returns_requireTransition_metadata hcanonical⟩
        · exact h.chains reviewId
      · rcases (Table.mem_add happend.free).mp hother with hother | rfl
        · exact (lasting_reviewFromRow env other).lasts grows_addReview (h.readable other hother)
        · refine (lasting_reviewFromRow env other).lasts grows_addReview ?_
          rw [← hreview] at hbound
          exact (readOnly_requireBoundAnalysis env _).returns_bind.mpr
            ⟨(), hbound, returns_done.mpr ⟨rfl, rfl⟩⟩
      · rcases (Table.mem_add happend.free).mp hother with hother | rfl
        · exact h.valid other hother
        · exact ⟨hid ▸ hnonblank, hfingerprint ▸ hsha⟩

/-! ### Runs -/

/-- One step: a call of `append`, or a commit that only lets the other tables grow. -/
inductive AppendStep (env : Env) (s : Store) : Store → Prop
  | append (call : ReviewCall) : AppendStep env s ((call.program env).run s).2
  | other (s' : Store) (reviews : s'.reviews = s.reviews) (grows : Grows s s') :
      AppendStep env s s'

theorem JournalSound.empty (h : s.reviews = ∅) : JournalSound env s where
  chains reviewId := by
    have hrows : revisions s reviewId = [] := by
      refine List.eq_nil_iff_forall_not_mem.mpr fun row hrow => ?_
      have hmem := (mem_revisions.mp hrow).1
      rw [h] at hmem
      exact Table.notMem_empty row hmem
    rw [hrows]
    exact .nil
  readable row hrow := by
    rw [h] at hrow
    exact absurd hrow (Table.notMem_empty row)
  valid row hrow := by
    rw [h] at hrow
    exact absurd hrow (Table.notMem_empty row)

theorem JournalSound.step (h : JournalSound env s) (hstep : AppendStep env s s') :
    JournalSound env s' := by
  cases hstep with
  | append call => exact h.call call
  | other _ hreviews hgrows => exact h.congr hreviews hgrows

/-- The journal is sound in every database that the calls reach. -/
theorem journalSound_of_run {s₀ : Store} (hempty : s₀.reviews = ∅)
    (hrun : Relation.ReflTransGen (AppendStep env) s₀ s) : JournalSound env s := by
  induction hrun with
  | refl => exact .empty hempty
  | tail _ hstep ih => exact ih.step hstep

/-! ### Reused keys -/

theorem JournalSound.returns_getReviewByKey (h : JournalSound env s) {row : FinanceReviewRow}
    {key : String} (hrow : s.reviews.get? (.reviewKey key) = some row) :
    (getReviewByKey env key).Returns s
      (some (row.review, row.revision, row.requestFingerprint)) s := by
  refine returns_select_bind.mpr ?_
  rw [hrow]
  exact (readOnly_reviewFromRow env row).returns_bind.mpr
    ⟨_, h.readable row (Table.mem_of_get? hrow), returns_done.mpr ⟨rfl, rfl⟩⟩

/-- What a call whose key is stored answers. -/
theorem JournalSound.reuse (h : JournalSound env s) (call : ReviewCall) {row : FinanceReviewRow}
    (hmem : row ∈ s.reviews) (hkey : row.idempotencyKey = call.idempotencyKey) :
    if row.review = call.review ∧ row.requestFingerprint = call.requestFingerprint ∧
        ∀ n ∈ call.expectedRevision, 0 < n then
      (call.program env).Returns s (row.review, row.revision) s
    else ∃ e, (call.program env).Raises s e := by
  have hrow : s.reviews.get? (.reviewKey call.idempotencyKey) = some row :=
    Table.get?_of_mem hmem (by rw [← hkey]; exact List.mem_cons_of_mem _ (List.mem_cons_self ..))
  have hreplay := h.returns_getReviewByKey hrow
  split
  · rename_i hsame
    obtain ⟨hreview, hfingerprint, hexpected⟩ := hsame
    obtain ⟨hnonblank, hsha⟩ := h.valid row hmem
    refine returns_require_bind.mpr ⟨hexpected, returns_require_bind.mpr ⟨hkey ▸ hnonblank,
      returns_require_bind.mpr ⟨hfingerprint ▸ hsha, ?_⟩⟩⟩
    exact (readOnly_getReviewByKey env _).returns_bind.mpr ⟨_, hreplay,
      returns_require_bind.mpr ⟨⟨hreview, hfingerprint⟩, returns_done.mpr ⟨rfl, rfl⟩⟩⟩
  · rename_i hother
    -- a call that returned would have passed the comparison
    cases hrun : (call.program env).run s with
    | mk result s' =>
      cases result with
      | error e => exact ⟨e, s', hrun⟩
      | ok p =>
        refine absurd ?_ hother
        have hreturns : (call.program env).Returns s p s' := hrun
        simp only [ReviewCall.program, appendReview, returns_require_bind] at hreturns
        obtain ⟨hexpected, -, -, hreturns⟩ := hreturns
        obtain ⟨replay, hread, hbody⟩ :=
          (readOnly_getReviewByKey env _).returns_bind.mp hreturns
        obtain ⟨-, rfl⟩ := SupplyResponse.returns_getReviewByKey env hread
        simp only [hrow, Option.map_some] at hbody
        obtain ⟨⟨hreview, hfingerprint⟩, -⟩ := returns_require_bind.mp hbody
        exact ⟨hreview, hfingerprint, hexpected⟩

/-- After any calls of `append` on an empty journal every review has a lifecycle, a
call that raises leaves the database alone, and a stored key is replayed for an equal
review and fingerprint, and refused for any other. -/
theorem review_journal {s₀ s : Store} (hempty : s₀.reviews = ∅)
    (hrun : Relation.ReflTransGen (AppendStep env) s₀ s) :
    (∀ reviewId, ReviewLifecycle (revisions s reviewId)) ∧
      ∀ call : ReviewCall,
        (∀ e s', (call.program env).run s = (.error e, s') → s' = s) ∧
        ∀ row ∈ s.reviews, row.idempotencyKey = call.idempotencyKey →
          if row.review = call.review ∧ row.requestFingerprint = call.requestFingerprint ∧
              ∀ n ∈ call.expectedRevision, 0 < n then
            (call.program env).Returns s (row.review, row.revision) s
          else ∃ e, (call.program env).Raises s e := by
  have hsound := journalSound_of_run hempty hrun
  refine ⟨fun reviewId => (hsound.chains reviewId).lifecycle, fun call => ⟨fun e s' hraise => ?_,
    fun row hrow hkey => hsound.reuse call hrow hkey⟩⟩
  exact failsClean_program env call s e s' hraise

/-- The submission of the sample case. -/
def sampleReview : Option FinanceReview :=
  ((history (Transaction.program sampleEnv) (sampleTransactions.take 3) Store.empty).reviews.get?
    (.review "RL-FINANCE-1" 1)).map FinanceReviewRow.review

def sampleReviewCall (review : FinanceReview) (expectedRevision : Option Nat) : ReviewCall :=
  ⟨review, expectedRevision, "journal", hexText 'a'⟩

/-- The sample submission is appended to an empty journal. -/
theorem sample_journal :
    ∃ review s, ∃ row ∈ s.reviews, sampleAnalyzed.reviews = ∅ ∧
      Relation.ReflTransGen (AppendStep sampleEnv) sampleAnalyzed s ∧
      row.review = review ∧ row.idempotencyKey = "journal" ∧
      row.requestFingerprint = hexText 'a' := by
  have hall : (sampleReview.any fun review =>
      ((sampleReviewCall review none).program sampleEnv).checkReturned sampleAnalyzed fun _ s =>
        (s.reviews.get? (.reviewKey "journal")).any fun row =>
          row.review = review ∧ row.idempotencyKey = "journal" ∧
            row.requestFingerprint = hexText 'a') = true := by
    decide +kernel
  have hempty : sampleAnalyzed.reviews = ∅ := by decide +kernel
  obtain ⟨review, -, hall⟩ := (Option.any_eq_true _ _).mp hall
  obtain ⟨p, s, hreturns, hall⟩ := exists_of_checkReturned hall
  obtain ⟨row, hrow, hall⟩ := (Option.any_eq_true _ _).mp hall
  obtain ⟨hreview, hkey, hfingerprint⟩ := of_decide_eq_true hall
  have hstate : ((sampleReviewCall review none).program sampleEnv).run sampleAnalyzed = (.ok p, s) :=
    hreturns
  have hstep := @AppendStep.append sampleEnv sampleAnalyzed (sampleReviewCall review none)
  rw [hstate] at hstep
  refine ⟨review, s, row, Table.mem_of_get? hrow, hempty, .single hstep, hreview, hkey, hfingerprint⟩

/-- The calls one after the other, each leaving what it wrote. -/
def appendAll (calls : List ReviewCall) (s : Store) : Store :=
  calls.foldl (fun s call => ((call.program sampleEnv).run s).2) s

theorem appendAll_steps (calls : List ReviewCall) (s : Store) :
    Relation.ReflTransGen (AppendStep sampleEnv) s (appendAll calls s) := by
  induction calls generalizing s with
  | nil => exact .refl
  | cons call calls ih => exact .head (.append call) (ih _)

/-- Taylor approves the sample review, and it is superseded. -/
def sampleLifecycle : Option (List ReviewCall) := do
  let review ← sampleReview
  let resolved ←
    (resolveFinanceReview review review.proposal sampleTaylor true (some "fine") 2).toOption
  let superseded ← (supersedeFinanceReview resolved 3).toOption
  pure [⟨review, none, "submit", hexText 'a'⟩, ⟨resolved, some 1, "resolve", hexText 'b'⟩,
    ⟨superseded, some 2, "supersede", hexText 'c'⟩]

/-- A review that was resolved and superseded: the resolution is replayed, and its key is refused
to another request. -/
theorem review_journal_sample :
    ∃ s, ∃ row ∈ s.reviews, row.idempotencyKey = "resolve" ∧
      (revisions s row.review.reviewId).map (fun r => (r.revision, r.review.status)) =
        [(1, .pending), (2, .approved), (3, .superseded)] ∧
      ReviewLifecycle (revisions s row.review.reviewId) ∧
      (ReviewCall.program sampleEnv ⟨row.review, some 1, "resolve", hexText 'b'⟩).Returns s
        (row.review, row.revision) s ∧
      ∃ e, (ReviewCall.program sampleEnv ⟨row.review, some 1, "resolve", hexText 'c'⟩).Raises s e := by
  have hempty : sampleAnalyzed.reviews = ∅ := by decide +kernel
  have hall : (sampleLifecycle.any fun calls =>
      ((appendAll calls sampleAnalyzed).reviews.get? (.reviewKey "resolve")).any fun row =>
        row.idempotencyKey = "resolve" ∧ row.requestFingerprint = hexText 'b' ∧
          (revisions (appendAll calls sampleAnalyzed) row.review.reviewId).map
            (fun r => (r.revision, r.review.status)) =
              [(1, .pending), (2, .approved), (3, .superseded)]) = true := by
    decide +kernel
  obtain ⟨calls, -, hall⟩ := (Option.any_eq_true _ _).mp hall
  obtain ⟨row, hrow, hall⟩ := (Option.any_eq_true _ _).mp hall
  obtain ⟨hkey, hfingerprint, hstatuses⟩ := of_decide_eq_true hall
  have hmem := Table.mem_of_get? hrow
  obtain ⟨hlifecycles, hcalls⟩ := review_journal hempty (appendAll_steps calls sampleAnalyzed)
  have hreplay := (hcalls ⟨row.review, some 1, "resolve", hexText 'b'⟩).2 row hmem hkey
  have hconflict := (hcalls ⟨row.review, some 1, "resolve", hexText 'c'⟩).2 row hmem hkey
  rw [if_pos ⟨rfl, hfingerprint, fun n hn => Option.mem_some_iff.mp hn ▸ Nat.one_pos⟩] at hreplay
  have hother : hexText 'b' ≠ hexText 'c' := by decide
  rw [if_neg fun h => hother (hfingerprint.symm.trans h.2.1)] at hconflict
  exact ⟨_, row, hmem, hkey, hstatuses, hlifecycles row.review.reviewId, hreplay, hconflict⟩

/-- With the expected revision 0 a repeated key raises, although the review and the
fingerprint are equal. -/
theorem zero_revision_not_replayed :
    ∃ s, Relation.ReflTransGen (AppendStep sampleEnv) sampleAnalyzed s ∧
      sampleAnalyzed.reviews = ∅ ∧
      ∃ row ∈ s.reviews, ∃ call : ReviewCall, row.idempotencyKey = call.idempotencyKey ∧
        row.review = call.review ∧ row.requestFingerprint = call.requestFingerprint ∧
        (call.program sampleEnv).run s =
          (.error ⟨.valueError, "expected_revision must be a positive integer or None"⟩, s) := by
  obtain ⟨review, s, row, hrow, hempty, hrun, rfl, hkey, hfingerprint⟩ := sample_journal
  exact ⟨s, hrun, hempty, row, hrow, sampleReviewCall row.review (some 0), hkey, rfl, hfingerprint,
    rfl⟩

end SupplyResponse
