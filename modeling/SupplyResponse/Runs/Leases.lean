/-
The lease on the material of an analysis (`try_claim_analysis`,
`complete_analysis_claim`, `release_analysis_claim`).

* `LeaseWorld` — the store, a clock, and the calls of `try_claim_analysis` whose
  insert failed and whose takeover is still to come;
* `LeaseStep` — one transaction of a call, of anyone else, or the clock;
* `LeaseInv` — the claims table is what the history of the leases says, and the
  history is lawful;
* `analysis_lease_exclusive` — mutual exclusion.

The owner of a lease is its claim id.  A call reads the clock before its
transactions, at any time.
-/
import SupplyResponse.Runs.Recordings
import SupplyResponse.Transact.Lease

namespace SupplyResponse

open Transact Transact.Prog
open Keyed (keys)

variable (env : Env)

/-! ### Calls -/

/-- A call of `try_claim_analysis`, with its own claim id. -/
structure LeaseRequest where
  caseId : String
  materialVersion : String
  claimId : String
  claimedAt : Instant
  lease : ℤ
  deriving DecidableEq

namespace LeaseRequest

/-- The case and the hashed material version. -/
@[reducible] def key (r : LeaseRequest) : String × String :=
  (r.caseId, env.claimVersion r.materialVersion)

def granted (r : LeaseRequest) : LeaseEvent (String × String) String Instant :=
  .granted (r.key env) r.claimId r.claimedAt (r.claimedAt + r.lease)

@[reducible] def row (r : LeaseRequest) : AnalysisClaimRow :=
  claimRow env r.caseId r.materialVersion r.claimId r.claimedAt r.lease

end LeaseRequest

/-- The store, the clock, the history of the leases, the claim ids in use, and
the calls that are between their insert and their takeover. -/
structure LeaseWorld where
  store : Store
  clock : Instant
  log : List (LeaseEvent (String × String) String Instant)
  asked : List String
  waiting : List LeaseRequest

namespace LeaseWorld

def start (s : Store) (now : Instant) : LeaseWorld := ⟨s, now, [], [], []⟩

/-- The first transaction of `try_claim_analysis`; an `IntegrityError` leads to
the second. -/
def insert (r : LeaseRequest) (w : LeaseWorld) : LeaseWorld :=
  match (insertClaim env r.caseId r.materialVersion r.claimId r.claimedAt r.lease).transact
    w.store with
  | (.ok _, s') =>
    { w with store := s', log := r.granted env :: w.log, asked := r.claimId :: w.asked }
  | (.error e, s') =>
    { w with
      store := s'
      asked := r.claimId :: w.asked
      waiting := if e.cls = .integrityError then r :: w.waiting else w.waiting }

/-- The second transaction of `try_claim_analysis`. -/
def takeOver (r : LeaseRequest) (w : LeaseWorld) : LeaseWorld :=
  match (takeOverClaim env r.caseId r.materialVersion r.claimId r.claimedAt r.lease).transact
    w.store with
  | (.ok true, s') =>
    { w with store := s', log := r.granted env :: w.log, waiting := w.waiting.erase r }
  | (_, s') => { w with store := s', waiting := w.waiting.erase r }

/-- `complete_analysis_claim`. -/
def complete (analysis : AnalysisVersion) (projectedCase : CaseInstance)
    (materialVersion claimId : String) (completedAt now : Instant) (w : LeaseWorld) :
    LeaseWorld :=
  match (completeAnalysisClaim env analysis projectedCase materialVersion claimId completedAt
    now).transact w.store with
  | (.ok _, s') =>
    { w with
      store := s'
      log := .committed (analysis.caseId, env.claimVersion materialVersion) claimId :: w.log }
  | (.error _, s') => { w with store := s' }

/-- `release_analysis_claim`. -/
def release (caseId materialVersion claimId : String) (w : LeaseWorld) : LeaseWorld :=
  { w with
    store := ((releaseAnalysisClaim env caseId materialVersion claimId).transact w.store).2
    log := .released (caseId, env.claimVersion materialVersion) claimId :: w.log }

end LeaseWorld

/-- One transaction, or the clock. -/
inductive LeaseStep : LeaseWorld → LeaseWorld → Prop
  | tick {w : LeaseWorld} {later : Instant} (h : w.clock ≤ later) :
    LeaseStep w { w with clock := later }
  | insert {w : LeaseWorld} (r : LeaseRequest) (hnew : r.claimId ∉ w.asked)
    (hread : r.claimedAt ≤ w.clock) : LeaseStep w (w.insert env r)
  | takeOver {w : LeaseWorld} (r : LeaseRequest) (hr : r ∈ w.waiting) :
    LeaseStep w (w.takeOver env r)
  | complete {w : LeaseWorld} (analysis : AnalysisVersion) (projectedCase : CaseInstance)
    (materialVersion claimId : String) (completedAt now : Instant) (hread : completedAt ≤ w.clock) :
    LeaseStep w (w.complete env analysis projectedCase materialVersion claimId completedAt now)
  | release {w : LeaseWorld} (caseId materialVersion claimId : String) :
    LeaseStep w (w.release env caseId materialVersion claimId)
  | other {w : LeaseWorld} {s' : Store} {u : Unit} (t : Transaction)
    (hclaims : .newClaim ∉ t.kinds ∧ .dropClaim ∉ t.kinds)
    (h : (t.program env).Commits w.store u s') : LeaseStep w { w with store := s' }

abbrev LeaseRun : LeaseWorld → LeaseWorld → Prop := Relation.ReflTransGen (LeaseStep env)

/-! ### The claims table -/

variable {env} {s s' : Store}

/-- The lease that a claim row stands for. -/
def AnalysisClaimRow.lease (row : AnalysisClaimRow) : String × Instant :=
  (row.claimId, row.claimExpiresAt)

/-- The lease on a case's material in the claims table. -/
def Store.leaseOn (s : Store) (key : String × String) : Option (String × Instant) :=
  (s.claims.get? (.claim key.1 key.2)).map AnalysisClaimRow.lease

theorem leaseOn_add {row : AnalysisClaimRow} (h : s.claims.Free row) (k : String × String) :
    Store.leaseOn { s with claims := s.claims.add row } k =
      if (row.caseId, row.materialVersion) = k then some row.lease else s.leaseOn k := by
  unfold Store.leaseOn
  rw [Table.get?_add h]
  have hmem : Key.claim k.1 k.2 ∈ keys row ↔ (row.caseId, row.materialVersion) = k := by
    rw [Prod.ext_iff]
    simp [eq_comm]
  by_cases hk : (row.caseId, row.materialVersion) = k
  · rw [if_pos (hmem.mpr hk), if_pos hk]
    rfl
  · rw [if_neg (mt hmem.mp hk), if_neg hk]

/-- The store without the claim on a case's material. -/
abbrev Store.dropClaim (s : Store) (key : String × String) : Store :=
  { s with claims := s.claims.delete (.claim key.1 key.2) }

theorem leaseOn_dropClaim (key k : String × String) :
    (s.dropClaim key).leaseOn k = if key = k then none else s.leaseOn k := by
  unfold Store.leaseOn
  by_cases hk : key = k
  · rw [if_pos hk, ← hk, Table.get?_delete_self]
    rfl
  · rw [if_neg hk]
    congr 1
    refine Table.get?_delete_of_notMem fun row _ hrow hmem => hk ?_
    simp only [keys_analysisClaimRow, List.mem_cons, Key.claim.injEq, reduceCtorEq,
      List.not_mem_nil, or_false] at hrow hmem
    exact Prod.ext (hmem.1.trans hrow.1.symm) (hmem.2.trans hrow.2.symm)

theorem leaseOn_of_claims_eq (h : s'.claims = s.claims) (k : String × String) :
    s'.leaseOn k = s.leaseOn k := by
  unfold Store.leaseOn
  rw [h]

/-- A release gives back the lease of its own claim id. -/
theorem leaseOn_release (caseId materialVersion claimId : String) (k : String × String) :
    Store.leaseOn ((releaseAnalysisClaim env caseId materialVersion claimId).transact s).2 k =
      if (caseId, env.claimVersion materialVersion) = k then giveBack claimId (s.leaseOn k)
      else s.leaseOn k := by
  rw [transact_releaseAnalysisClaim]
  by_cases hk : (caseId, env.claimVersion materialVersion) = k
  · rw [if_pos hk, ← hk]
    have hlease : s.leaseOn (caseId, env.claimVersion materialVersion) =
        (s.claims.get? (.claim caseId (env.claimVersion materialVersion))).map
          AnalysisClaimRow.lease := rfl
    rcases hrow : s.claims.get? (.claim caseId (env.claimVersion materialVersion)) with _ | row <;>
      rw [hrow] at hlease
    · dsimp only
      rw [hlease]
      rfl
    · show Store.leaseOn (if row.claimId = claimId then
        s.dropClaim (caseId, env.claimVersion materialVersion) else s) _ = _
      rw [hlease]
      show _ = if row.claimId = claimId then none else some row.lease
      split
      · rw [leaseOn_dropClaim, if_pos rfl]
      · exact hlease
  · rw [if_neg hk]
    rcases s.claims.get? (.claim caseId (env.claimVersion materialVersion)) with _ | row
    · rfl
    · show Store.leaseOn (if row.claimId = claimId then
        s.dropClaim (caseId, env.claimVersion materialVersion) else s) _ = _
      split
      · rw [leaseOn_dropClaim, if_neg hk]
      · rfl

/-- A program without claim statements leaves the claims alone. -/
theorem claims_of_uses {α : Type} {kinds : List WriteKind} {p : Sql α} {a : α}
    (huses : Uses kinds p) (hclaims : .newClaim ∉ kinds ∧ .dropClaim ∉ kinds)
    (h : p.Returns s a s') : s'.claims = s.claims :=
  relates_of_uses (R := fun s s' => s'.claims = s.claims) (fun _ => rfl)
    (fun hab hbc => hbc.trans hab)
    (fun hk hw => hw.claims_eq (fun he => hclaims.1 (he ▸ hk)) (fun he => hclaims.2 (he ▸ hk)) _)
    huses h

/-- A committed completion deleted the claim it held. -/
theorem claims_of_completeAnalysisClaim {analysis a : AnalysisVersion}
    {projectedCase : CaseInstance} {materialVersion claimId : String} {completedAt now : Instant}
    (h : (completeAnalysisClaim env analysis projectedCase materialVersion claimId completedAt
      now).Commits s a s') :
    ∃ e, s.leaseOn (analysis.caseId, env.claimVersion materialVersion) = some (claimId, e) ∧
      completedAt ≤ e ∧
      s'.claims = s.claims.delete (.claim analysis.caseId (env.claimVersion materialVersion)) := by
  obtain ⟨_, s₁, hbody, h⟩ := returns_bind.mp h
  obtain ⟨-, rfl⟩ := returns_done.mp h
  have hbody := returns_mapError.mp hbody
  rw [completeClaimConnection, returns_select_bind] at hbody
  obtain ⟨⟨row, hrow, hid, hexpires⟩, hbody⟩ := returns_require_bind.mp hbody
  obtain ⟨_, s₂, hsave, hbody⟩ := returns_bind.mp hbody
  obtain ⟨deleted, s₃, hdelete, hbody⟩ := returns_bind.mp hbody
  obtain ⟨hdeleted, rfl⟩ := returns_require.mp hbody
  have hclaims : s₂.claims = s.claims := by
    have huses : Uses [.newAnalysis, .advanceLegacy, .compareAndSet, .newReview]
        (saveAnalysisConnection env analysis (some projectedCase) now) :=
      uses_saveAnalysisConnection env (by decide) (by decide) (by decide) (by decide) _ _ _
    exact claims_of_uses huses (by decide) hsave
  refine ⟨row.claimExpiresAt, ?_, hexpires, ?_⟩
  · rw [Store.leaseOn, hrow]
    exact congrArg some (Prod.ext hid rfl)
  · obtain ⟨rfl, -⟩ | ⟨-, _, -, -, rfl⟩ := returns_deleteClaim hdelete
    · cases hdeleted
    · rw [hclaims]

/-! ### The invariant -/

/-- The claims table is what the history says; the history is lawful; every
call has its own claim id, and a waiting one has no lease yet. -/
structure LeaseInv (w : LeaseWorld) : Prop where
  lawful : Lawful w.clock w.log
  table : ∀ k, leaseOf k w.log = w.store.leaseOn k
  asked : ∀ i, GrantedTo i w.log → i ∈ w.asked
  waiting : ∀ r ∈ w.waiting,
    r.claimId ∈ w.asked ∧ ¬GrantedTo r.claimId w.log ∧ r.claimedAt ≤ w.clock
  distinct : (w.waiting.map LeaseRequest.claimId).Nodup

theorem LeaseInv.start {now : Instant} (hs : s.claims = ∅) : LeaseInv (.start s now) := by
  refine ⟨.start now, fun k => ?_, fun i hi => ?_, fun r hr => ?_, List.nodup_nil⟩
  · show none = s.leaseOn k
    unfold Store.leaseOn
    rw [hs]
    rfl
  · obtain ⟨_, _, _, h⟩ := hi
    cases h
  · cases hr

theorem grantedTo_cons {event : LeaseEvent (String × String) String Instant}
    {log : List (LeaseEvent (String × String) String Instant)} {i : String}
    (h : GrantedTo i (event :: log)) :
    (∃ k a e, event = .granted k i a e) ∨ GrantedTo i log := by
  obtain ⟨k, a, e, hmem⟩ := h
  rcases List.mem_cons.mp hmem with heq | htail
  · exact .inl ⟨k, a, e, heq.symm⟩
  · exact .inr ⟨k, a, e, htail⟩

namespace LeaseInv

variable {w : LeaseWorld}

/-- A store in which the claims did not change. -/
theorem of_claims_eq (h : LeaseInv w) (hclaims : s'.claims = w.store.claims) :
    LeaseInv { w with store := s' } :=
  ⟨h.lawful, fun k => (h.table k).trans (leaseOn_of_claims_eq hclaims k).symm, h.asked, h.waiting,
    h.distinct⟩

/-- A claim by a new id over an expired lease, or none. -/
theorem granted (h : LeaseInv w) (r : LeaseRequest) (hread : r.claimedAt ≤ w.clock)
    (hnew : ¬GrantedTo r.claimId w.log)
    (hexpired : ∀ i e, w.store.leaseOn (r.key env) = some (i, e) → e < r.claimedAt)
    (htable : ∀ k, s'.leaseOn k = if r.key env = k then some (r.row env).lease else w.store.leaseOn k)
    {asked : List String} (hasked : ∀ i ∈ w.asked, i ∈ asked) (hid : r.claimId ∈ asked)
    {waiting : List LeaseRequest} (hsub : waiting.Sublist w.waiting)
    (hothers : ∀ x ∈ waiting, x.claimId ≠ r.claimId) :
    LeaseInv ⟨s', w.clock, r.granted env :: w.log, asked, waiting⟩ := by
  have hgranted : ∀ i, GrantedTo i (r.granted env :: w.log) → i = r.claimId ∨ GrantedTo i w.log := by
    intro i hi
    rcases grantedTo_cons hi with ⟨k, a, e, heq⟩ | hi
    · cases heq
      exact .inl rfl
    · exact .inr hi
  refine ⟨.granted h.lawful hread hnew fun i e hlease => hexpired i e ?_, fun k => ?_, fun i hi => ?_,
    fun x hx => ?_, h.distinct.sublist (hsub.map _)⟩
  · rw [← h.table]
    exact hlease
  · rw [htable, ← h.table]
    rfl
  · rcases hgranted i hi with rfl | hi
    · exact hid
    · exact hasked i (h.asked i hi)
  · obtain ⟨hasked', hnot, hread'⟩ := h.waiting x (hsub.subset hx)
    refine ⟨hasked _ hasked', fun hi => ?_, hread'⟩
    rcases hgranted _ hi with heq | hi
    · exact hothers x hx heq
    · exact hnot hi

theorem insert (h : LeaseInv w) (r : LeaseRequest) (hnew : r.claimId ∉ w.asked)
    (hread : r.claimedAt ≤ w.clock) : LeaseInv (w.insert env r) := by
  have hnot : ¬GrantedTo r.claimId w.log := fun hi => hnew (h.asked _ hi)
  have hothers : ∀ x ∈ w.waiting, x.claimId ≠ r.claimId := fun x hx heq =>
    hnew (heq ▸ (h.waiting x hx).1)
  unfold LeaseWorld.insert
  rcases htransact : (insertClaim env r.caseId r.materialVersion r.claimId r.claimedAt
    r.lease).transact w.store with ⟨e | b, s'⟩
  · obtain rfl := transact_error htransact
    refine ⟨h.lawful, h.table, fun i hi => List.mem_cons_of_mem _ (h.asked i hi), ?_, ?_⟩
    · dsimp only
      split
      · intro x hx
        rcases List.mem_cons.mp hx with rfl | hx
        · exact ⟨List.mem_cons_self .., hnot, hread⟩
        · exact (h.waiting x hx).imp_left (List.mem_cons_of_mem _)
      · exact fun x hx => (h.waiting x hx).imp_left (List.mem_cons_of_mem _)
    · dsimp only
      split
      · rw [List.map_cons, List.nodup_cons]
        refine ⟨fun hmem => ?_, h.distinct⟩
        obtain ⟨x, hx, heq⟩ := List.mem_map.mp hmem
        exact hothers x hx heq
      · exact h.distinct
  · have hcommits : (insertClaim env r.caseId r.materialVersion r.claimId r.claimedAt
        r.lease).Commits w.store b s' := by
      rcases transact_ok htransact with hcommits | ⟨-, s₁, hrollback⟩
      · exact hcommits
      · obtain ⟨_, _, -, hrollback⟩ := returns_bind.mp hrollback
        obtain ⟨_, _, -, hrollback⟩ := returns_bind.mp hrollback
        cases (returns_done.mp hrollback).1
    obtain ⟨hfree, rfl⟩ := commits_insertClaim env hcommits
    refine h.granted r hread hnot (fun i e hlease => ?_) (leaseOn_add hfree)
      (fun i hi => List.mem_cons_of_mem _ hi) (List.mem_cons_self ..) (List.Sublist.refl _) hothers
    -- the key was free
    have hnone := hfree (.claim r.caseId (env.claimVersion r.materialVersion))
      (List.mem_cons_self ..)
    rw [Store.leaseOn, hnone] at hlease
    cases hlease

theorem takeOver (h : LeaseInv w) (r : LeaseRequest) (hr : r ∈ w.waiting) :
    LeaseInv (w.takeOver env r) := by
  obtain ⟨hid, hnot, hread⟩ := h.waiting r hr
  have herase : (w.waiting.erase r).Sublist w.waiting := List.erase_sublist
  have hothers : ∀ x ∈ w.waiting.erase r, x.claimId ≠ r.claimId := by
    intro x hx heq
    have hnodup : w.waiting.Nodup := h.distinct.of_map _
    obtain ⟨hne, hx⟩ := hnodup.mem_erase_iff.mp hx
    exact hne (List.inj_on_of_nodup_map h.distinct hx hr heq)
  have hrefused : ∀ {s' : Store}, s'.claims = w.store.claims →
      LeaseInv { w with store := s', waiting := w.waiting.erase r } := by
    intro s' hclaims
    exact ⟨h.lawful, (h.of_claims_eq hclaims).table, h.asked,
      fun x hx => h.waiting x (herase.subset hx), h.distinct.sublist (herase.map _)⟩
  unfold LeaseWorld.takeOver
  rcases htransact : (takeOverClaim env r.caseId r.materialVersion r.claimId r.claimedAt
    r.lease).transact w.store with ⟨e | b, s'⟩
  · exact hrefused (by rw [transact_error htransact])
  · rcases transact_ok htransact with hcommits | ⟨-, s₁, hrollback⟩
    · obtain ⟨rfl, hs⟩ | ⟨rfl, row, hrow, hexpired, hfree, rfl⟩ :=
        commits_takeOverClaim env hcommits
      · exact hrefused (by rw [hs])
      · refine h.granted r hread hnot (fun i e hlease => ?_) (fun k => ?_) (fun i hi => hi) hid herase
          hothers
        · rw [Store.leaseOn, hrow] at hlease
          obtain ⟨-, rfl⟩ := Prod.mk.inj (Option.some.inj hlease)
          exact hexpired
        · rw [leaseOn_add (s := w.store.dropClaim (r.key env)) hfree, leaseOn_dropClaim]
          by_cases hk : r.key env = k
          · rw [if_pos hk, if_pos hk]
          · rw [if_neg hk, if_neg hk, if_neg hk]
    · exact absurd hrollback (not_rollback_takeOverClaim env)

theorem complete (h : LeaseInv w) (analysis : AnalysisVersion) (projectedCase : CaseInstance)
    (materialVersion claimId : String) (completedAt now : Instant) :
    LeaseInv (w.complete env analysis projectedCase materialVersion claimId completedAt now) := by
  unfold LeaseWorld.complete
  rcases htransact : (completeAnalysisClaim env analysis projectedCase materialVersion claimId
    completedAt now).transact w.store with ⟨e | a, s'⟩
  · obtain rfl := transact_error htransact
    exact h
  · have hcommits : (completeAnalysisClaim env analysis projectedCase materialVersion claimId
        completedAt now).Commits w.store a s' := by
      rcases transact_ok htransact with hcommits | ⟨-, s₁, hrollback⟩
      · exact hcommits
      · obtain ⟨_, _, -, hrollback⟩ := returns_bind.mp hrollback
        cases (returns_done.mp hrollback).1
    obtain ⟨e, hlease, -, hclaims⟩ := claims_of_completeAnalysisClaim hcommits
    rw [← h.table] at hlease
    have hgranted : ∀ i, GrantedTo i (.committed (analysis.caseId,
        env.claimVersion materialVersion) claimId :: w.log) → GrantedTo i w.log := by
      intro i hi
      exact (grantedTo_cons hi).resolve_left fun ⟨_, _, _, heq⟩ => by cases heq
    refine ⟨.committed h.lawful hlease, fun k => ?_, fun i hi => h.asked i (hgranted i hi),
      fun x hx => ?_, h.distinct⟩
    · rw [leaseOn_of_claims_eq
        (s := w.store.dropClaim (analysis.caseId, env.claimVersion materialVersion)) hclaims,
        leaseOn_dropClaim, leaseOf, h.table]
      by_cases hk : (analysis.caseId, env.claimVersion materialVersion) = k
      · rw [if_pos hk, if_pos hk, ← h.table, ← hk, hlease]
        exact if_pos rfl
      · rw [if_neg hk, if_neg hk]
    · obtain ⟨hid, hnot, hread⟩ := h.waiting x hx
      exact ⟨hid, fun hi => hnot (hgranted _ hi), hread⟩

theorem release (h : LeaseInv w) (caseId materialVersion claimId : String) :
    LeaseInv (w.release env caseId materialVersion claimId) := by
  have hgranted : ∀ i, GrantedTo i (.released (caseId, env.claimVersion materialVersion) claimId ::
      w.log) → GrantedTo i w.log := by
    intro i hi
    exact (grantedTo_cons hi).resolve_left fun ⟨_, _, _, heq⟩ => by cases heq
  refine ⟨.released h.lawful, fun k => ?_, fun i hi => h.asked i (hgranted i hi),
    fun x hx => ?_, h.distinct⟩
  · show leaseOf k (.released (caseId, env.claimVersion materialVersion) claimId :: w.log) =
      Store.leaseOn ((releaseAnalysisClaim env caseId materialVersion claimId).transact w.store).2 k
    rw [leaseOn_release, leaseOf, h.table]
  · obtain ⟨hid, hnot, hread⟩ := h.waiting x hx
    exact ⟨hid, fun hi => hnot (hgranted _ hi), hread⟩

theorem step {w' : LeaseWorld} (h : LeaseInv w) (hstep : LeaseStep env w w') : LeaseInv w' := by
  cases hstep with
  | tick hle =>
    exact ⟨.tick h.lawful hle, h.table, h.asked, fun x hx => (h.waiting x hx).imp_right fun hx =>
      hx.imp_right fun hread => le_trans hread hle, h.distinct⟩
  | insert r hnew hread => exact h.insert r hnew hread
  | takeOver r hr => exact h.takeOver r hr
  | complete => exact h.complete _ _ _ _ _ _
  | release => exact h.release _ _ _
  | other t hclaims hcommits =>
    exact h.of_claims_eq (claims_of_uses (uses_program env t) hclaims hcommits)

end LeaseInv

theorem leaseInv_of_run {now : Instant} {w : LeaseWorld} (hs : s.claims = ∅)
    (h : LeaseRun env (.start s now) w) : LeaseInv w := by
  induction h with
  | refl => exact .start hs
  | tail _ hstep ih => exact ih.step hstep

/-- A completion that does not hold the unexpired lease by the claims table is
refused, and nothing is written. -/
theorem complete_busy {analysis : AnalysisVersion} {projectedCase : CaseInstance}
    {materialVersion claimId : String} {completedAt now : Instant}
    (h : ¬∃ e, s.leaseOn (analysis.caseId, env.claimVersion materialVersion) = some (claimId, e) ∧
      completedAt ≤ e) :
    (completeAnalysisClaim env analysis projectedCase materialVersion claimId completedAt
      now).transact s =
        (.error (analysisClaimBusy "analysis material claim is expired or owned elsewhere"), s) := by
  refine transact_completeAnalysisClaim_busy env ?_
  rintro ⟨row, hrow, hid, hexpires⟩
  refine h ⟨row.claimExpiresAt, ?_, hexpires⟩
  rw [Store.leaseOn, show s.claims.get? _ = some row from hrow]
  exact congrArg some (Prod.ext hid rfl)

/-- In every run of any number of calls: at most one claim id holds an unexpired
lease on a case's material; a lease is granted over an expired one only; a claim
id commits at most one analysis, under the lease that the history says it has;
any other completion is refused and writes nothing; and a release leaves the
leases of the other claim ids alone. -/
theorem analysis_lease_exclusive {now : Instant} {w : LeaseWorld} (hs : s.claims = ∅)
    (h : LeaseRun env (.start s now) w) :
    (∀ k i i' e e', Holds k i e w.log → w.clock ≤ e → Holds k i' e' w.log → w.clock ≤ e' →
        i = i') ∧
      (∀ newer k i a e older i' e', w.log = newer ++ .granted k i a e :: older →
        leaseOf k older = some (i', e') → e' < a) ∧
      (∀ i, commitsOf i w.log ≤ 1) ∧
      (∀ k, leaseOf k w.log = w.store.leaseOn k) ∧
      (∀ (analysis : AnalysisVersion) projectedCase materialVersion claimId completedAt now,
        (¬∃ e, leaseOf (analysis.caseId, env.claimVersion materialVersion) w.log =
          some (claimId, e) ∧ completedAt ≤ e) →
        (completeAnalysisClaim env analysis projectedCase materialVersion claimId completedAt
          now).transact w.store =
            (.error (analysisClaimBusy "analysis material claim is expired or owned elsewhere"),
              w.store)) ∧
      ∀ caseId materialVersion claimId k i e, w.store.leaseOn k = some (i, e) → i ≠ claimId →
        Store.leaseOn ((releaseAnalysisClaim env caseId materialVersion claimId).transact
          w.store).2 k = some (i, e) := by
  have hinv := leaseInv_of_run hs h
  refine ⟨fun k i i' e e' hi he hi' he' => hinv.lawful.exclusive hi he hi' he',
    fun newer k i a e older i' e' hlog hlease => hinv.lawful.expired_of_granted hlog hlease,
    hinv.lawful.commits_le_one, hinv.table,
    fun analysis projectedCase materialVersion claimId completedAt now hnot => ?_,
    fun caseId materialVersion claimId k i e hlease hne => ?_⟩
  · refine complete_busy fun hlease => hnot ?_
    rwa [hinv.table]
  · rw [leaseOn_release, hlease]
    split
    · exact giveBack_eq_some.mpr ⟨rfl, hne⟩
    · rfl

def sampleRequest : LeaseRequest := ⟨"case", "material", "claim", 0, 300⟩

/-- Another owner asks for the same material, once the first lease has expired. -/
def sampleTakeover : LeaseRequest := ⟨"case", "material", "second", 301, 300⟩

/-- The case is created and claimed; the lease expires, and the second owner takes it over. -/
def sampleTakenOver (s : Store) : LeaseWorld :=
  LeaseWorld.takeOver sampleEnv sampleTakeover
    (LeaseWorld.insert sampleEnv sampleTakeover
      { LeaseWorld.insert sampleEnv sampleRequest (.start s 0) with clock := 301 })

/-- A lease that expired and was taken over: its first owner cannot complete the analysis any
more. -/
theorem analysis_lease_exclusive_sample :
    ∃ w, LeaseRun sampleEnv (.start Store.empty 0) w ∧
      w.log = [sampleTakeover.granted sampleEnv, sampleRequest.granted sampleEnv] ∧
      leaseOf (sampleRequest.key sampleEnv) w.log = some ("second", 601) ∧
      (completeAnalysisClaim sampleEnv (sampleAnalysis .legacy "analysis" 100) (sampleCase .legacy)
        "material" "claim" 301 301).transact w.store =
          (.error (analysisClaimBusy "analysis material claim is expired or owned elsewhere"),
            w.store) ∧
      Store.leaseOn ((releaseAnalysisClaim sampleEnv "case" "material" "claim").transact w.store).2
        (sampleRequest.key sampleEnv) = some ("second", 601) := by
  have hstate : ((Transaction.createCase (sampleCase .legacy) sampleSnapshot).program
      sampleEnv).checkCommitted Store.empty (fun _ s => decide (
        (sampleTakenOver s).log =
            [sampleTakeover.granted sampleEnv, sampleRequest.granted sampleEnv] ∧
          (sampleTakenOver s).store.leaseOn (sampleRequest.key sampleEnv) = some ("second", 601) ∧
          (LeaseWorld.insert sampleEnv sampleRequest (.start s 0)).clock ≤ 301 ∧
          sampleTakeover.claimId ∉ (LeaseWorld.insert sampleEnv sampleRequest (.start s 0)).asked ∧
          sampleTakeover ∈ (LeaseWorld.insert sampleEnv sampleTakeover
            { LeaseWorld.insert sampleEnv sampleRequest (.start s 0) with clock := 301 }).waiting)) =
              true := by
    decide +kernel
  obtain ⟨u, s, hrun, hstate⟩ := exists_of_checkCommitted hstate
  obtain ⟨hlog, htaken, hclock, hasked, hwaiting⟩ := of_decide_eq_true hstate
  have hcreated : LeaseRun sampleEnv (.start Store.empty 0) (.start s 0) :=
    .single (.other (.createCase (sampleCase .legacy) sampleSnapshot) (by decide) hrun)
  have hnew : sampleRequest.claimId ∉ (LeaseWorld.start s 0).asked := List.not_mem_nil
  have hclaimed := hcreated.tail (.insert sampleRequest hnew (Int.le_refl 0))
  have hexpired := hclaimed.tail (.tick hclock)
  have hrefused := hexpired.tail (.insert sampleTakeover hasked (Int.le_refl 301))
  have hsecond : LeaseRun sampleEnv (.start Store.empty 0) (sampleTakenOver s) :=
    hrefused.tail (.takeOver sampleTakeover hwaiting)
  obtain ⟨-, -, -, htable, hbusy, hrelease⟩ := analysis_lease_exclusive rfl hsecond
  have hlease := (htable (sampleRequest.key sampleEnv)).trans htaken
  refine ⟨_, hsecond, hlog, hlease, hbusy _ _ _ _ _ _ ?_, hrelease _ _ _ _ _ _ htaken (by decide)⟩
  rintro ⟨e, he, -⟩
  have howner : "claim" = "second" := congrArg Prod.fst (Option.some.inj (he.symm.trans hlease))
  exact absurd howner (by decide)

end SupplyResponse
