/-
The selection pointer and the Finance reviews.

* `reviewTenure` — the current review of every case and the liveness of every
  review, as a `Tenure`;
* `ReviewInvariant` — the journal of reviews is well formed, every review
  belongs to a stored selection, every pointer names one, and the live reviews
  are the current ones;
* `submits_replace`, `ends_replace` — a publication and a withdrawal are
  replacements of the tenure;
* `reviewInvariant_of_run` — the invariant of every reachable database.
-/
import SupplyResponse.Runs.Frames
import SupplyResponse.Transact.Tenure

namespace SupplyResponse

open Transact Transact.Prog
open Keyed (keys)

/-- The receipt a case points to. -/
def currentReceipt (s : Store) (caseId : String) : Option SelectionReceipt :=
  (pointer s caseId).bind fun id => s.selections.get? (.selection id)

/-- The review of the selection a case points to. -/
def currentReviewId (s : Store) (caseId : String) : Option String :=
  (currentReceipt s caseId).bind fun receipt => receipt.selection.financeReviewId

/-- The case of a review, and whether its latest revision is not superseded. -/
def openedReview (s : Store) (reviewId : String) : Option (String × Bool) :=
  (latestRow s reviewId).map fun row =>
    (row.review.proposal.caseId, decide (row.review.status ≠ .superseded))

/-- The tenure of reviews by cases. -/
def reviewTenure (s : Store) : Tenure String String where
  current := currentReviewId s
  opened := openedReview s

/-! ### The journal -/

/-- Revisions of one review share the request, and a superseded one is the last. -/
structure Journal (s : Store) : Prop where
  request : ∀ row ∈ s.reviews, ∀ row' ∈ s.reviews,
    row'.review.reviewId = row.review.reviewId → row.review.SameRequest row'.review
  terminal : ∀ row ∈ s.reviews, row.review.status = .superseded →
    latestRow s row.review.reviewId = some row

theorem latestRow_congr {s s' : Store} (h : s'.reviews = s.reviews) (id : String) :
    latestRow s' id = latestRow s id := by
  unfold latestRow
  rw [h]

theorem Journal.congr {s s' : Store} (h : Journal s) (hs : s'.reviews = s.reviews) :
    Journal s' := by
  constructor
  · rw [hs]
    exact h.request
  · intro row hrow hstatus
    rw [hs] at hrow
    rw [latestRow_congr hs]
    exact h.terminal row hrow hstatus

/-- A stored review has a latest revision. -/
theorem exists_latestRow {s : Store} {row : FinanceReviewRow} (h : row ∈ s.reviews) :
    ∃ latest, latestRow s row.review.reviewId = some latest := by
  rcases hl : latestRow s row.review.reviewId with _ | latest
  · simpa using Table.latest_eq_none.mp hl row h
  · exact ⟨latest, rfl⟩

theorem mem_of_latestRow {s : Store} {id : String} {row : FinanceReviewRow}
    (h : latestRow s id = some row) : row ∈ s.reviews :=
  (Table.latest_spec h).1

/-- An appended row is the latest of its review. -/
theorem Appends.latestRow_eq {s s' : Store} {row : FinanceReviewRow} (h : Appends s row)
    (hs : s'.reviews = s.reviews.add row) (id : String) :
    latestRow s' id = if id = row.review.reviewId then some row else latestRow s id := by
  unfold latestRow
  rw [hs]
  split
  · rename_i hid
    subst hid
    refine Table.latest_add_of_lt h.free (by simp) fun y hy => ?_
    have hrevision := h.revision
    unfold latestRow at hrevision
    rw [hy, Option.map_some, Option.getD_some] at hrevision
    omega
  · rename_i hid
    exact Table.latest_add_of_not (by simpa using fun h => hid h.symm)

theorem FinanceReview.SameRequest.refl (r : FinanceReview) : r.SameRequest r :=
  ⟨rfl, rfl, rfl, rfl⟩

theorem FinanceReview.SameRequest.symm {r r' : FinanceReview} (h : r.SameRequest r') :
    r'.SameRequest r :=
  ⟨h.1.symm, h.2.1.symm, h.2.2.1.symm, h.2.2.2.symm⟩

theorem FinanceReview.SameRequest.trans {r r' r'' : FinanceReview} (h : r.SameRequest r')
    (h' : r'.SameRequest r'') : r.SameRequest r'' :=
  ⟨h'.1.trans h.1, h'.2.1.trans h.2.1, h'.2.2.1.trans h.2.2.1, h'.2.2.2.trans h.2.2.2⟩

/-- An appended row continues the request of all earlier revisions. -/
theorem Journal.sameRequest {s : Store} {row x : FinanceReviewRow} (h : Journal s)
    (ha : Appends s row) (hx : x ∈ s.reviews) (hid : row.review.reviewId = x.review.reviewId) :
    x.review.SameRequest row.review := by
  obtain ⟨latest, hl⟩ := exists_latestRow hx
  rw [← hid] at hl
  have hsame := (ha.next latest hl).2.1
  exact (h.request x hx latest (mem_of_latestRow hl) ((reviewId_of_latestRow hl).trans hid)).trans
    hsame

theorem Journal.append {s s' : Store} {row : FinanceReviewRow} (h : Journal s)
    (ha : Appends s row) (hs : s'.reviews = s.reviews.add row) : Journal s' := by
  constructor
  · intro x hx y hy hid
    rw [hs] at hx hy
    rcases (Table.mem_add ha.free).mp hx with hx' | hx' <;>
      rcases (Table.mem_add ha.free).mp hy with hy' | hy'
    · exact h.request x hx' y hy' hid
    · exact hy' ▸ h.sameRequest ha hx' (hy' ▸ hid)
    · exact hx' ▸ (h.sameRequest ha hy' (hx' ▸ hid.symm)).symm
    · rw [hx', hy']
      exact .refl _
  · intro x hx hstatus
    rw [hs] at hx
    rw [ha.latestRow_eq hs]
    rcases (Table.mem_add ha.free).mp hx with hx | rfl
    · have hlatest := h.terminal x hx hstatus
      split
      · -- no row follows a superseded one
        rename_i hid
        rw [hid] at hlatest
        have hnext := (ha.next x hlatest).1
        rw [hstatus] at hnext
        cases hnext
      · exact hlatest
    · rw [if_pos rfl]

/-- The end of a review whose latest revision is live is a new revision. -/
theorem Journal.ends {s s' : Store} {review : FinanceReview} {row : FinanceReviewRow}
    (h : Journal s) (hlatest : latestRow s review.reviewId = some row)
    (hlive : row.review.status ≠ .superseded) (hsup : Supersedes s review s') :
    ∃ row', Appends s row' ∧ review.SameRequest row'.review ∧
      row'.review.status = .superseded ∧ s' = { s with reviews := s.reviews.add row' } := by
  rcases hsup with ⟨-, row', hrow', hsame, hstatus⟩ | happ
  · have hterminal := h.terminal row' hrow' hstatus
    rw [hsame.1, hlatest] at hterminal
    obtain rfl := Option.some.inj hterminal
    exact absurd hstatus hlive
  · exact happ

/-! ### The state of a proposal, read off the tenure -/

theorem StateOf.pointer_eq {s : Store} {caseId : String} {st : ProposalState}
    (h : StateOf s caseId st) : pointer s caseId = st.token.selectionId := by
  obtain ⟨row, hrow, hshows, -⟩ := h.row
  unfold pointer
  rw [hrow]
  exact hshows.2.2.2

theorem StateOf.currentReviewId_eq {s : Store} {caseId : String} {st : ProposalState}
    (h : StateOf s caseId st) :
    currentReviewId s caseId = st.selection.bind ProposalSelection.financeReviewId := by
  unfold currentReviewId currentReceipt
  rw [h.pointer_eq]
  have hconsistent := st.consistent
  rcases hsel : st.selection with _ | sel <;> rw [hsel] at hconsistent
  · rw [hconsistent.2.2]
    rfl
  · obtain ⟨-, -, receipt, hreceipt, rfl⟩ := h.selection _ hsel
    rw [hconsistent.1, Option.bind_some, hreceipt]
    rfl

/-- Without a review in the state, the case has no current review. -/
theorem StateOf.currentReviewId_none {s : Store} {caseId : String} {st : ProposalState}
    (h : StateOf s caseId st) (hr : st.review = none) : currentReviewId s caseId = none := by
  rw [h.currentReviewId_eq]
  have hconsistent := st.consistent
  rcases hsel : st.selection with _ | sel <;> rw [hsel] at hconsistent
  · rfl
  · rw [Option.bind_some]
    rcases hid : sel.financeReviewId with _ | id
    · rfl
    · obtain ⟨-, hmatches⟩ := hconsistent
      rw [hid, hr] at hmatches
      exact hmatches.elim

/-- The review of the state is the current review of the case, on the proposal
of its selection. -/
theorem StateOf.currentReviewId_some {s : Store} {caseId : String} {st : ProposalState}
    {review : FinanceReview} (h : StateOf s caseId st) (hr : st.review = some review) :
    currentReviewId s caseId = some review.reviewId ∧ review.proposal.caseId = caseId ∧
      (∃ sel, st.selection = some sel ∧ review.proposal = sel.proposal) ∧
      ∃ row, latestRow s review.reviewId = some row ∧ row.review = review ∧
        st.reviewRevision = some row.revision := by
  obtain ⟨sel, row, hsel, hid, hrow, hreview, hrevision⟩ := h.review review hr
  have hconsistent := st.consistent
  rw [hsel] at hconsistent
  have hmatches := hconsistent.2
  rw [hid, hr] at hmatches
  refine ⟨?_, ?_, ⟨sel, hsel, hmatches.2.1⟩, row, hrow, hreview, hrevision⟩
  · rw [h.currentReviewId_eq, hsel, Option.bind_some, hid]
  · rw [hmatches.2.1]
    exact (h.selection sel hsel).1.1

/-! ### Ending the current review -/

/-- `s'` is `s₂` with the current review that `c` has in `s` ended. -/
structure EndsCurrent (s : Store) (c : String) (s₂ s' : Store) : Prop where
  frame : s' = { s₂ with reviews := s'.reviews }
  journal : Journal s'
  opened : ∀ r, openedReview s' r =
    if currentReviewId s c = some r then some (c, false) else openedReview s r
  requests : ∀ row ∈ s'.reviews, ∃ row₀ ∈ s.reviews, row₀.review.SameRequest row.review

/-- The current review of a case is live. -/
def CurrentIsLive (s : Store) (c : String) : Prop :=
  ∀ r, currentReviewId s c = some r →
    ∃ row, latestRow s r = some row ∧ row.review.status ≠ .superseded

theorem openedReview_congr {s s' : Store} (h : s'.reviews = s.reviews) (r : String) :
    openedReview s' r = openedReview s r := by
  unfold openedReview
  rw [latestRow_congr h]

theorem endsCurrent {s s₂ s' : Store} {c : String} {st : ProposalState} (hj : Journal s)
    (hlive : CurrentIsLive s c) (hst : StateOf s c st) (hs₂ : s₂.reviews = s.reviews)
    (hsup : SupersedesState s₂ st s') : EndsCurrent s c s₂ s' := by
  rcases hsup with ⟨hnone, rfl⟩ | ⟨review, hr, hsup⟩
  · -- there is no current review
    refine ⟨rfl, hj.congr hs₂, fun r => ?_, fun row hrow => ?_⟩
    · rw [hst.currentReviewId_none hnone, if_neg (by simp), openedReview_congr hs₂]
    · exact ⟨row, hs₂ ▸ hrow, .refl _⟩
  · obtain ⟨hcur, hcase, -, -⟩ := hst.currentReviewId_some hr
    obtain ⟨row, hrow, hstatus⟩ := hlive _ hcur
    obtain ⟨row', ha, hsame, hsuperseded, rfl⟩ :=
      (hj.congr hs₂).ends ((latestRow_congr hs₂ _).trans hrow) hstatus hsup
    refine ⟨rfl, (hj.congr hs₂).append ha rfl, fun r => ?_, fun x hx => ?_⟩
    · unfold openedReview
      rw [ha.latestRow_eq rfl, hcur, hsame.1]
      by_cases hid : r = review.reviewId
      · rw [if_pos hid, if_pos (by rw [hid]), Option.map_some, hsame.2.1, hcase, hsuperseded]
        rfl
      · rw [if_neg hid, if_neg (by simpa using fun h => hid h.symm), latestRow_congr hs₂]
    · rcases (Table.mem_add ha.free).mp hx with hx | rfl
      · exact ⟨x, hs₂ ▸ hx, .refl _⟩
      · refine ⟨row, mem_of_latestRow hrow, ?_⟩
        exact (hj.congr hs₂).sameRequest ha (hs₂ ▸ mem_of_latestRow hrow)
          (hsame.1.trans (reviewId_of_latestRow hrow).symm)

/-! ### The invariant -/

structure ReviewInvariant (s : Store) : Prop where
  journal : Journal s
  owner : ∀ row ∈ s.reviews, ∃ receipt,
    s.selections.get? (.selectionReview row.review.reviewId) = some receipt ∧
      receipt.selection.proposal = row.review.proposal
  pointed : ∀ caseId id, pointer s caseId = some id → ∃ receipt,
    s.selections.get? (.selection id) = some receipt ∧
      receipt.selection.proposal.caseId = caseId
  coherent : (reviewTenure s).Coherent

namespace ReviewInvariant

theorem empty : ReviewInvariant Store.empty where
  journal := ⟨fun _ h => absurd h (Table.notMem_empty _), fun _ h => absurd h (Table.notMem_empty _)⟩
  owner _ h := absurd h (Table.notMem_empty _)
  pointed _ _ h := by cases h
  coherent r c := by
    show (none : Option (String × Bool)) = some (c, true) ↔ (none : Option String) = some r
    simp

theorem of_neutral {s s' : Store} (h : ReviewInvariant s) (hn : Neutral s s') :
    ReviewInvariant s' := by
  refine ⟨h.journal.congr hn.reviews, ?_, ?_, ?_⟩
  · rw [hn.reviews, hn.selections]
    exact h.owner
  · intro caseId id hid
    rw [hn.pointer] at hid
    rw [hn.selections]
    exact h.pointed caseId id hid
  · have htenure : reviewTenure s' = reviewTenure s := by
      refine Tenure.ext (funext fun c => ?_) (funext fun r => openedReview_congr hn.reviews r)
      show currentReviewId s' c = currentReviewId s c
      unfold currentReviewId currentReceipt
      rw [hn.pointer, hn.selections]
    rw [htenure]
    exact h.coherent

/-- The current review of a case is live. -/
theorem currentIsLive {s : Store} (h : ReviewInvariant s) (c : String) : CurrentIsLive s c := by
  intro r hr
  have hopened : openedReview s r = some (c, true) := (h.coherent r c).mpr hr
  obtain ⟨row, hrow, heq⟩ := Option.map_eq_some_iff.mp hopened
  exact ⟨row, hrow, of_decide_eq_true (congrArg Prod.snd heq)⟩

/-- The current review of a case has been opened by it, and a row of the review
is of that case. -/
theorem opened_of_current {s : Store} (h : ReviewInvariant s) {r c : String}
    (hr : currentReviewId s c = some r) : openedReview s r = some (c, true) :=
  (h.coherent r c).mpr hr

end ReviewInvariant

/-! ### Withdrawal -/

/-- Removing the pointer and ending the current review is a replacement by
nothing. -/
theorem ends_replace {s s₂ s' : Store} {c : String} {st : ProposalState} (h : ReviewInvariant s)
    (hst : StateOf s c st) (hrev : s₂.reviews = s.reviews) (hsel : s₂.selections = s.selections)
    (hptr : ∀ c', pointer s₂ c' = if c' = c then none else pointer s c')
    (hsup : SupersedesState s₂ st s') :
    ReviewInvariant s' ∧ reviewTenure s' = (reviewTenure s).replace c none := by
  obtain ⟨hframe, hjournal, hopened, hrequests⟩ :=
    endsCurrent h.journal (h.currentIsLive c) hst hrev hsup
  have hsel' : s'.selections = s.selections := by rw [hframe]; exact hsel
  have hptr' : ∀ c', pointer s' c' = if c' = c then none else pointer s c' := by
    intro c'
    rw [hframe]
    exact hptr c'
  have htenure : reviewTenure s' = (reviewTenure s).replace c none := by
    refine Tenure.ext (funext fun c' => ?_) (funext fun r => ?_)
    · show currentReviewId s' c' = if c' = c then none else currentReviewId s c'
      unfold currentReviewId currentReceipt
      rw [hptr', hsel']
      split <;> rfl
    · show openedReview s' r = if (none : Option String) = some r then some (c, true) else
        if currentReviewId s c = some r then some (c, false) else openedReview s r
      exact (hopened r).trans (if_neg (by simp)).symm
  refine ⟨⟨hjournal, fun row hrow => ?_, fun caseId id hid => ?_, ?_⟩, htenure⟩
  · obtain ⟨row₀, hrow₀, hsame⟩ := hrequests row hrow
    obtain ⟨receipt, hreceipt, hproposal⟩ := h.owner row₀ hrow₀
    rw [hsel', hsame.1, hsame.2.1]
    exact ⟨receipt, hreceipt, hproposal⟩
  · rw [hptr'] at hid
    split at hid
    · cases hid
    · rw [hsel']
      exact h.pointed caseId id hid
  · rw [htenure]
    exact h.coherent.replace c (by simp)

/-! ### Publication -/

/-- The review of a new receipt was not opened before. -/
theorem fresh_of_free {s : Store} {receipt : SelectionReceipt} (h : ReviewInvariant s)
    (hfree : s.selections.Free receipt) {r : String}
    (hr : receipt.selection.financeReviewId = some r) : ∀ row ∈ s.reviews,
      row.review.reviewId ≠ r := by
  rintro row hrow rfl
  obtain ⟨receipt', hreceipt', -⟩ := h.owner row hrow
  have hnone := hfree (.selectionReview row.review.reviewId) (by simp [hr])
  cases hreceipt'.symm.trans hnone

theorem openedReview_eq_none {s : Store} {r : String}
    (h : ∀ row ∈ s.reviews, row.review.reviewId ≠ r) : openedReview s r = none := by
  unfold openedReview
  rw [Option.map_eq_none_iff]
  exact Table.latest_eq_none.mpr fun row hrow => by simpa using h row hrow

/-- `s₁` is `s` with the review `next` opened on `proposal`. -/
structure Opens (s : Store) (proposal : FinanceProposal) (next : Option String) (s₁ : Store) :
    Prop where
  frame : s₁ = { s with reviews := s₁.reviews }
  journal : Journal s₁
  opened : ∀ r, openedReview s₁ r =
    if next = some r then some (proposal.caseId, true) else openedReview s r
  rows : ∀ row ∈ s₁.reviews, row ∈ s.reviews ∨
    next = some row.review.reviewId ∧ row.review.proposal = proposal

theorem OpensReview.opens {s s₁ : Store} {proposal : FinanceProposal} {next : Option String}
    (hj : Journal s) (fresh : ∀ r, next = some r → ∀ row ∈ s.reviews, row.review.reviewId ≠ r)
    (h : OpensReview s proposal next s₁) : Opens s proposal next s₁ := by
  cases next with
  | none =>
    obtain rfl : s₁ = s := h
    exact ⟨rfl, hj, fun r => by rw [if_neg (by simp)], fun row hrow => .inl hrow⟩
  | some r =>
    rcases h with ⟨-, row, hrow, hid, -⟩ | ⟨row, ha, hid, hproposal, hstatus, rfl⟩
    · exact absurd hid (fresh r rfl row hrow)
    · refine ⟨rfl, hj.append ha rfl, fun r' => ?_, fun x hx => ?_⟩
      · unfold openedReview
        rw [ha.latestRow_eq rfl, hid]
        by_cases hr : r' = r
        · rw [if_pos hr, if_pos (by rw [hr]), Option.map_some, hproposal, hstatus]
          rfl
        · rw [if_neg hr, if_neg (by simpa using fun h => hr h.symm)]
      · rcases (Table.mem_add ha.free).mp hx with hx | rfl
        · exact .inl hx
        · exact .inr ⟨by rw [hid], hproposal⟩

theorem Opens.currentReviewId_eq {s s₁ : Store} {proposal : FinanceProposal}
    {next : Option String} (h : Opens s proposal next s₁) (c : String) :
    currentReviewId s₁ c = currentReviewId s c := by
  rw [h.frame]
  rfl

/-- The current review of a case is not the fresh one. -/
theorem ReviewInvariant.current_ne_fresh {s : Store} {next : Option String}
    (h : ReviewInvariant s)
    (fresh : ∀ r, next = some r → ∀ row ∈ s.reviews, row.review.reviewId ≠ r) {r c : String}
    (hr : currentReviewId s c = some r) : next ≠ some r := by
  intro hn
  cases (openedReview_eq_none (fresh r hn)).symm.trans (h.opened_of_current hr)

/-- Opening a fresh review does not touch the liveness of the current ones. -/
theorem Opens.currentIsLive {s s₁ : Store} {proposal : FinanceProposal} {next : Option String}
    (ho : Opens s proposal next s₁) (h : ReviewInvariant s)
    (fresh : ∀ r, next = some r → ∀ row ∈ s.reviews, row.review.reviewId ≠ r) (c : String) :
    CurrentIsLive s₁ c := by
  intro r hr
  rw [ho.currentReviewId_eq] at hr
  have hopened : openedReview s₁ r = some (c, true) := by
    rw [ho.opened, if_neg (h.current_ne_fresh fresh hr)]
    exact h.opened_of_current hr
  obtain ⟨row, hrow, heq⟩ := Option.map_eq_some_iff.mp hopened
  exact ⟨row, hrow, of_decide_eq_true (congrArg Prod.snd heq)⟩

theorem pointer_cas {s : Store} {c : String} {row : CaseProjectionRow} {expected : ProposalToken}
    {values : CasValues} (hrow : s.projections.get? (.projection c) = some row) (c' : String) :
    pointer (s.cas c expected values) c' =
      if c' = c then values.currentSelectionId.getD row.currentSelectionId else pointer s c' := by
  unfold Store.cas
  rw [pointer_modify, hrow, Option.bind_some]

/-- A publication replaces the current review by the one of the new receipt. -/
theorem submits_replace {env : Env} {s s' : Store} {command : SubmitProposalCommand}
    {receipt : SelectionReceipt} (h : ReviewInvariant s) (hs : Submits env s command receipt s') :
    ReviewInvariant s' ∧
      reviewTenure s' = (reviewTenure s).replace receipt.selection.proposal.caseId
        receipt.selection.financeReviewId := by
  obtain ⟨s₁, hopens, hpub⟩ := hs.published
  set c := receipt.selection.proposal.caseId with hc
  set next := receipt.selection.financeReviewId with hnext
  have hfree : s.selections.Free receipt := hopens.selections_eq ▸ hpub.free
  have fresh := fun r hr => fresh_of_free h hfree (r := r) hr
  have hopen := hopens.opens h.journal fresh
  have hcurrent₁ := hopen.currentReviewId_eq
  have hold := fun r hr => h.current_ne_fresh fresh (r := r) (c := c) hr
  obtain ⟨st, hready, hsup⟩ := hpub.effect
  obtain ⟨hframe, hjournal, hopened, hrequests⟩ :=
    endsCurrent hopen.journal (hopen.currentIsLive h fresh c) hready.state (by rfl) hsup
  obtain ⟨row, hrow, -⟩ := hready.state.row
  have hsel' : s'.selections = s.selections.add receipt := by
    rw [hframe, ← hopens.selections_eq]
    rfl
  have hptr' : ∀ c', pointer s' c' =
      if c' = c then some receipt.selection.selectionId else pointer s c' := by
    intro c'
    have hp : pointer s' c' = pointer (({ s₁ with selections := s₁.selections.add receipt } :
        Store).cas c receipt.expected
          { currentSelectionId := some (some receipt.selection.selectionId) }) c' := by
      rw [hframe]
      rfl
    have hs₁ : pointer s₁ c' = pointer s c' := by
      rw [hopen.frame]
      rfl
    refine hp.trans ((pointer_cas hrow c').trans ?_)
    rw [hs₁]
    rfl
  have hstored : s'.selections.get? (.selection receipt.selection.selectionId) = some receipt := by
    rw [hsel', Table.get?_add hfree, if_pos (by simp)]
  have hcurrent' : ∀ c', currentReviewId s' c' =
      if c' = c then next else currentReviewId s c' := by
    intro c'
    unfold currentReviewId currentReceipt
    rw [hptr']
    split
    · rw [Option.bind_some, hstored, Option.bind_some]
    · rcases hp : pointer s c' with _ | id
      · rfl
      · obtain ⟨receipt', hreceipt', -⟩ := h.pointed c' id hp
        rw [Option.bind_some, Option.bind_some, hsel', Table.get?_add_of_some hreceipt', hreceipt']
  have htenure : reviewTenure s' = (reviewTenure s).replace c next := by
    refine Tenure.ext (funext hcurrent') (funext fun r => ?_)
    show openedReview s' r = if next = some r then some (c, true) else
      if currentReviewId s c = some r then some (c, false) else openedReview s r
    rw [hopened, hopen.opened, hcurrent₁]
    by_cases hr : currentReviewId s c = some r
    · rw [if_pos hr, if_neg (hold r hr), if_pos hr]
    · rw [if_neg hr, if_neg hr]
  refine ⟨⟨hjournal, fun x hx => ?_, fun caseId id hid => ?_, ?_⟩, htenure⟩
  · obtain ⟨x₀, hx₀, hsame⟩ := hrequests x hx
    rw [hsel', hsame.1, hsame.2.1]
    rcases hopen.rows x₀ hx₀ with hx₀ | ⟨hn, hproposal⟩
    · obtain ⟨receipt', hreceipt', hproposal⟩ := h.owner x₀ hx₀
      exact ⟨receipt', Table.get?_add_of_some hreceipt', hproposal⟩
    · refine ⟨receipt, ?_, hproposal.symm⟩
      rw [Table.get?_add hfree, if_pos]
      rw [keys_selectionReceipt, hn]
      simp
  · rw [hptr'] at hid
    split at hid
    · rename_i hcase
      obtain rfl := Option.some.inj hid
      exact ⟨receipt, hstored, hcase.symm⟩
    · obtain ⟨receipt', hreceipt', hcase⟩ := h.pointed caseId id hid
      rw [hsel']
      exact ⟨receipt', Table.get?_add_of_some hreceipt', hcase⟩
  · rw [htenure]
    exact h.coherent.replace c fun r hr => openedReview_eq_none (fresh r hr)

/-! ### Resolution -/

/-- A resolution leaves the tenure as it was. -/
theorem resolves_tenure {env : Env} {s s' : Store} {command : ResolveFinanceCommand}
    {caseId : String} {row : FinanceReviewRow} (h : ReviewInvariant s)
    (hr : Resolves env s command caseId row s') :
    ReviewInvariant s' ∧ reviewTenure s' = reviewTenure s := by
  obtain ⟨st, review, hready, hreview, hpending, hsame⟩ := hr.ready
  obtain ⟨hcur, hcase, -, row₀, hrow₀, rfl, -⟩ := hready.state.currentReviewId_some hreview
  obtain ⟨prow, hprow, hshows, -⟩ := hready.state.row
  have hsel' : s'.selections = s.selections := by rw [hr.effect]; rfl
  have hrev' : s'.reviews = s.reviews.add row := by rw [hr.effect]
  have hptr' : ∀ c', pointer s' c' = pointer s c' := by
    intro c'
    have hguard : pointer s' c' = pointer (s.cas caseId command.expected
        { currentSelectionId := some command.expected.selectionId }) c' := by
      rw [hr.effect]
      rfl
    rw [hguard]
    exact pointer_modify_of_eq hprow ((hready.token ▸ hshows).2.2.2.symm) c'
  have htenure : reviewTenure s' = reviewTenure s := by
    refine Tenure.ext (funext fun c' => ?_) (funext fun r => ?_)
    · show currentReviewId s' c' = currentReviewId s c'
      unfold currentReviewId currentReceipt
      rw [hptr', hsel']
    · show openedReview s' r = openedReview s r
      unfold openedReview
      rw [hr.appends.latestRow_eq hrev']
      split
      · -- both revisions are live, on the same proposal
        rename_i hid
        rw [hid, hsame.1, hrow₀, Option.map_some, Option.map_some, hsame.2.1,
          decide_eq_true hr.live, decide_eq_true (by rw [hpending]; decide)]
      · rfl
  refine ⟨⟨h.journal.append hr.appends hrev', fun x hx => ?_, fun c id hid => ?_, ?_⟩, htenure⟩
  · rw [hsel']
    rw [hrev'] at hx
    rcases (Table.mem_add hr.appends.free).mp hx with hx | rfl
    · exact h.owner x hx
    · rw [hsame.1, hsame.2.1]
      exact h.owner row₀ (mem_of_latestRow hrow₀)
  · rw [hptr'] at hid
    rw [hsel']
    exact h.pointed c id hid
  · rw [htenure]
    exact h.coherent

/-! ### Steps and runs -/

/-- The guard of a current state is neutral. -/
theorem neutral_guard {s : Store} {caseId : String} {expected : ProposalToken}
    {st : ProposalState} (h : ReadyState s caseId expected st) :
    Neutral s (s.cas caseId expected { currentSelectionId := some expected.selectionId }) := by
  obtain ⟨row, hrow, hshows, -⟩ := h.state.row
  exact ⟨rfl, rfl, pointer_modify_of_eq hrow ((h.token ▸ hshows).2.2.2.symm)⟩

theorem StoresDecision.neutral {s s' : Store} {decision : Decision}
    (h : StoresDecision s decision s') : Neutral s s' := by
  obtain ⟨row, satisfactions, outbox, hrow, -, -, rfl⟩ := h.effect
  exact ⟨rfl, rfl, pointer_modify_of_eq hrow rfl⟩

/-- The projection after a compare-and-set that clears the pointer. -/
theorem pointer_cleared {s : Store} {c : String} {expected : ProposalToken}
    (h : ∃ row, s.projections.get? (.projection c) = some row) {values : CasValues}
    (hv : values.currentSelectionId = some none) (c' : String) :
    pointer (s.cas c expected values) c' = if c' = c then none else pointer s c' := by
  obtain ⟨row, hrow⟩ := h
  rw [pointer_cas hrow, hv]
  rfl

variable {env : Env} {s s' : Store}

theorem ReviewInvariant.saves {analysis : AnalysisVersion} {projected : Option CaseInstance}
    {stored : CaseInstance} {row : CaseProjectionRow} (h : ReviewInvariant s)
    (hs : SavesAnalysis env s analysis projected stored row s') : ReviewInvariant s' := by
  by_cases hw : stored.effectiveWorkflowVersion = .independentFinance
  · obtain ⟨st, hready, hsup⟩ := hs.independent hw
    exact (ends_replace h hready.state (by rfl) (by rfl)
      (pointer_cleared (s := s.addAnalysis analysis) ⟨row, hs.projection⟩ rfl) hsup).1
  · rw [hs.legacy hw]
    refine h.of_neutral ⟨rfl, rfl, pointer_modify_of_eq (s := s.addAnalysis analysis)
      hs.projection ?_⟩
    rfl

theorem ReviewInvariant.finalizes {command : FinalizeProposalCommand} {decision : Decision}
    (h : ReviewInvariant s) (hf : Finalizes env s command decision s') : ReviewInvariant s' := by
  rcases hk : decision.kind
  · have hneutral := neutral_guard (hf.decides.choose_spec.ready)
    exact h.of_neutral (hneutral.trans (hf.approved hk).neutral)
  · obtain ⟨st, s₁, hready, hsup, hstores⟩ := hf.rejected hk
    obtain ⟨row, hrow, -⟩ := hready.state.row
    exact (ends_replace h hready.state (by rfl) (by rfl) (pointer_cleared ⟨row, hrow⟩ rfl)
      hsup).1.of_neutral hstores.neutral

/-- Every committed transaction keeps the invariant. -/
theorem reviewInvariant_step (h : ReviewInvariant s) {t : Transaction} {u : Unit}
    (hc : (t.program env).Commits s u s') : ReviewInvariant s' := by
  by_cases hneutral : ∀ kind ∈ t.kinds, kind ∉ proposalKinds
  · exact h.of_neutral (neutral_of_commits hneutral hc)
  · cases t
    case saveAnalysis analysis projected now =>
      obtain ⟨_, hsave⟩ := commits_effect.mp hc
      obtain ⟨stored, row, hs⟩ := returns_saveAnalysis env hsave
      exact h.saves hs
    case completeAnalysisClaim analysis projected version claimId completedAt now =>
      obtain ⟨_, hcomplete⟩ := commits_effect.mp hc
      obtain ⟨-, stored, row, s₁, hs, t, rfl⟩ := returns_completeAnalysisClaim env hcomplete
      exact (h.saves hs).of_neutral ⟨rfl, rfl, fun _ => rfl⟩
    case submit command actor selectionUuid reviewUuid clock =>
      obtain ⟨_, hsubmit⟩ := commits_effect.mp hc
      obtain ⟨receipt, hs⟩ := returns_submitTransaction env hsubmit
      exact (submits_replace h hs).1
    case resolve command actor clock =>
      obtain ⟨_, hresolve⟩ := commits_effect.mp hc
      obtain ⟨caseId, row, hr⟩ := returns_resolveTransaction env hresolve
      exact (resolves_tenure h hr).1
    case finalize command actor decisionUuid eventUuid clock =>
      obtain ⟨_, hfinalize⟩ := commits_effect.mp hc
      exact h.finalizes (returns_finalizeTransaction env hfinalize)
    all_goals exact absurd (by dsimp only [Transaction.kinds]; decide) hneutral

/-- Every reachable database satisfies the invariant. -/
theorem reviewInvariant_of_run (h : Run (Transaction.program env) Store.empty s) :
    ReviewInvariant s :=
  h.invariant (fun hs ⟨_, _, hc⟩ => reviewInvariant_step hs hc) ReviewInvariant.empty

end SupplyResponse
