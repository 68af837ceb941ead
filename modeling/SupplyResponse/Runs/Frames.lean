/-
What the statements leave alone.

* `Writing.…_eq` — a table changes only by the statements that write it;
* `Grows` — the immutable tables only grow;
* `Neutral` — the proposals are as they were: selections, reviews and the
  selection pointers of all cases;
* `grows_of_commits`, `neutral_of_commits` — the same for transactions.
-/
import SupplyResponse.Runs.Transactions

namespace SupplyResponse

open Transact Transact.Prog
open Keyed (keys)

/-! ### Tables -/

namespace Writing

variable {kind : WriteKind} {v : Store} {l : List Key} {u : Store → Store}

theorem cases_eq (h : Writing kind v l u) (hk : kind ≠ .newCase) (s : Store) :
    (u s).cases = s.cases := by
  cases h <;> first | rfl | exact absurd rfl hk

theorem snapshots_eq (h : Writing kind v l u) (hk : kind ≠ .newSnapshot) (s : Store) :
    (u s).snapshots = s.snapshots := by
  cases h <;> first | rfl | exact absurd rfl hk

theorem analyses_eq (h : Writing kind v l u) (hk : kind ≠ .newAnalysis) (s : Store) :
    (u s).analyses = s.analyses := by
  cases h <;> first | rfl | exact absurd rfl hk

theorem claims_eq (h : Writing kind v l u) (hn : kind ≠ .newClaim) (hd : kind ≠ .dropClaim)
    (s : Store) : (u s).claims = s.claims := by
  cases h <;> first | rfl | exact absurd rfl hn | exact absurd rfl hd

theorem selections_eq (h : Writing kind v l u) (hk : kind ≠ .newSelection) (s : Store) :
    (u s).selections = s.selections := by
  cases h <;> first | rfl | exact absurd rfl hk

theorem reviews_eq (h : Writing kind v l u) (hk : kind ≠ .newReview) (s : Store) :
    (u s).reviews = s.reviews := by
  cases h <;> first | rfl | exact absurd rfl hk

theorem decisions_eq (h : Writing kind v l u) (hk : kind ≠ .newDecision) (s : Store) :
    (u s).decisions = s.decisions := by
  cases h <;> first | rfl | exact absurd rfl hk

end Writing

/-! ### The immutable tables -/

/-- No row of the immutable tables disappears or changes. -/
structure Grows (s s' : Store) : Prop where
  cases : ∀ {k r}, s.cases.get? k = some r → s'.cases.get? k = some r
  snapshots : ∀ {k r}, s.snapshots.get? k = some r → s'.snapshots.get? k = some r
  analyses : ∀ {k r}, s.analyses.get? k = some r → s'.analyses.get? k = some r
  selections : ∀ {k r}, s.selections.get? k = some r → s'.selections.get? k = some r
  reviews : ∀ {k r}, s.reviews.get? k = some r → s'.reviews.get? k = some r
  decisions : ∀ {k r}, s.decisions.get? k = some r → s'.decisions.get? k = some r

namespace Grows

theorem refl (s : Store) : Grows s s := ⟨id, id, id, id, id, id⟩

theorem trans {a b c : Store} (h : Grows a b) (h' : Grows b c) : Grows a c :=
  ⟨fun hr => h'.cases (h.cases hr), fun hr => h'.snapshots (h.snapshots hr),
    fun hr => h'.analyses (h.analyses hr), fun hr => h'.selections (h.selections hr), fun hr => h'.reviews (h.reviews hr),
    fun hr => h'.decisions (h.decisions hr)⟩

end Grows

theorem Writing.grows {kind : WriteKind} {v : Store} {l : List Key} {u : Store → Store}
    (h : Writing kind v l u) (s : Store) : Grows s (u s) := by
  refine ⟨fun hr => ?_, fun hr => ?_, fun hr => ?_, fun hr => ?_, fun hr => ?_, fun hr => ?_⟩
  · by_cases hk : kind = .newCase
    · subst hk
      cases h
      exact Table.get?_add_of_some hr
    · rwa [h.cases_eq hk]
  · by_cases hk : kind = .newSnapshot
    · subst hk
      cases h
      exact Table.get?_add_of_some hr
    · rwa [h.snapshots_eq hk]
  · by_cases hk : kind = .newAnalysis
    · subst hk
      cases h
      exact Table.get?_add_of_some hr
    · rwa [h.analyses_eq hk]
  · by_cases hk : kind = .newSelection
    · subst hk
      cases h
      exact Table.get?_add_of_some hr
    · rwa [h.selections_eq hk]
  · by_cases hk : kind = .newReview
    · subst hk
      cases h
      exact Table.get?_add_of_some hr
    · rwa [h.reviews_eq hk]
  · by_cases hk : kind = .newDecision
    · subst hk
      cases h
      exact Table.get?_add_of_some hr
    · rwa [h.decisions_eq hk]

/-! ### Neutral statements -/

/-- The selection a case points to. -/
def pointer (s : Store) (caseId : String) : Option String :=
  (s.projections.get? (.projection caseId)).bind CaseProjectionRow.currentSelectionId

/-- Nothing happened to the proposals. -/
structure Neutral (s s' : Store) : Prop where
  selections : s'.selections = s.selections
  reviews : s'.reviews = s.reviews
  pointer : ∀ caseId, pointer s' caseId = pointer s caseId

namespace Neutral

theorem refl (s : Store) : Neutral s s := ⟨rfl, rfl, fun _ => rfl⟩

theorem trans {a b c : Store} (h : Neutral a b) (h' : Neutral b c) : Neutral a c :=
  ⟨h'.selections.trans h.selections, h'.reviews.trans h.reviews,
    fun id => (h'.pointer id).trans (h.pointer id)⟩

end Neutral

/-- A rewrite of one projection moves the pointer of that case only. -/
theorem pointer_modify {s : Store} {c c' : String} {f : CaseProjectionRow → CaseProjectionRow}
    {hf : ∀ r, Key.projection c ∈ keys r → keys (f r) = keys r} :
    pointer { s with projections := s.projections.modify (.projection c) f hf } c' =
      if c' = c then
        (s.projections.get? (.projection c)).bind fun row => (f row).currentSelectionId
      else pointer s c' := by
  unfold pointer
  rw [get?_modifyProjection]
  split
  · rw [Option.bind_map]
    rfl
  · rfl

/-- The statements that may touch a proposal. -/
def proposalKinds : List WriteKind :=
  [.advanceLegacy, .compareAndSet, .newSelection, .newReview]

theorem pointer_modify_of_eq {s : Store} {c : String} {row : CaseProjectionRow}
    {f : CaseProjectionRow → CaseProjectionRow}
    {hf : ∀ r, Key.projection c ∈ keys r → keys (f r) = keys r}
    (hrow : s.projections.get? (.projection c) = some row)
    (heq : (f row).currentSelectionId = row.currentSelectionId) (c' : String) :
    pointer { s with projections := s.projections.modify (.projection c) f hf } c' =
      pointer s c' := by
  rw [pointer_modify]
  split
  · rename_i hc
    subst hc
    unfold pointer
    rw [hrow, Option.bind_some, Option.bind_some, heq]
  · rfl

theorem pointer_add_initial {s : Store} {case : CaseInstance}
    (hfree : s.projections.Free (CaseProjectionRow.initial case)) (c : String) :
    pointer { s with projections := s.projections.add (.initial case) } c = pointer s c := by
  unfold pointer
  rw [Table.get?_add hfree]
  split
  · rename_i hk
    rw [hfree _ hk]
    rfl
  · rfl

theorem Writing.neutral {kind : WriteKind} {v : Store} {l : List Key} {u : Store → Store}
    (h : Writing kind v l u) (hk : kind ∉ proposalKinds) : Neutral v (u v) := by
  have hsel : (u v).selections = v.selections :=
    h.selections_eq (fun he => hk (by rw [he]; decide)) v
  have hrev : (u v).reviews = v.reviews := h.reviews_eq (fun he => hk (by rw [he]; decide)) v
  refine ⟨hsel, hrev, ?_⟩
  cases h
  case newProjection case hfree => exact pointer_add_initial hfree
  case saveProjection row case hrow => exact pointer_modify_of_eq hrow rfl
  case setStatus row c changed hrow => exact pointer_modify_of_eq hrow rfl
  case setDecision row c id changed hrow => exact pointer_modify_of_eq hrow rfl
  case guard row c expected hs hrow => exact pointer_modify_of_eq hrow hs.2.2.2.symm
  case advanceLegacy => exact absurd (by decide) hk
  case compareAndSet => exact absurd (by decide) hk
  all_goals exact fun _ => rfl

/-! ### Transactions -/

variable {env : Env} {t : Transaction} {s s' : Store} {u : Unit}

/-- What every statement of a program does along a preorder, the program does. -/
theorem relates_of_uses {α : Type} {kinds : List WriteKind} {p : Sql α} {a : α}
    {R : Store → Store → Prop} (refl : ∀ s, R s s) (trans : ∀ {a b c}, R a b → R b c → R a c)
    (h : ∀ {kind v l u}, kind ∈ kinds → Writing kind v l u → R v (u v)) (huses : Uses kinds p)
    (hr : p.Returns s a s') : R s s' := by
  have hrun := huses.writes.run refl trans (fun v l u hu => by
    rcases hu with ⟨-, rfl⟩ | ⟨kind, hk, hw⟩
    · exact refl v
    · exact h hk hw) s
  rwa [show p.run s = _ from hr] at hrun

/-- What every statement of a committed transaction does along a preorder, the
transaction does. -/
theorem relates_of_commits {R : Store → Store → Prop} (refl : ∀ s, R s s)
    (trans : ∀ {a b c}, R a b → R b c → R a c)
    (h : ∀ {kind v l u}, kind ∈ t.kinds → Writing kind v l u → R v (u v))
    (hc : (t.program env).Commits s u s') : R s s' :=
  relates_of_uses refl trans h (uses_program env t) hc

/-- Any part of a transaction only adds rows to the immutable tables. -/
theorem grows_of_uses {α : Type} (kinds : List WriteKind) {p : Sql α} {a : α} (h : Uses kinds p)
    (hr : p.Returns s a s') : Grows s s' :=
  relates_of_uses Grows.refl Grows.trans (fun _ hw => hw.grows _) h hr

theorem grows_of_commits (hc : (t.program env).Commits s u s') : Grows s s' :=
  relates_of_commits Grows.refl Grows.trans (fun _ hw => hw.grows _) hc

theorem neutral_of_commits (hk : ∀ kind ∈ t.kinds, kind ∉ proposalKinds)
    (hc : (t.program env).Commits s u s') : Neutral s s' :=
  relates_of_commits Neutral.refl Neutral.trans (fun hkind hw => hw.neutral (hk _ hkind)) hc

theorem Run.grows (h : Run (Transaction.program env) s s') : Grows s s' :=
  h.relates Grows.refl Grows.trans fun ⟨_, _, hc⟩ => grows_of_commits hc

end SupplyResponse
