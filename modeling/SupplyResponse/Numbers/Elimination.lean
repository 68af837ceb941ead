/-
Thresholded lexicographic elimination.

Alternatives are compared by one criterion after the other.  Each criterion
keeps what is within its slack of the best of those still there, and the rounds
end when one alternative is left.

* `Criterion.keep` — the survivors of one round;
* `rounds` — the criteria that are applied, each with its alternatives;
* `survivors` — what is left at the end;
* `mem_survivors_of_dominates` — an alternative that is at least as good as a
  survivor on every criterion survives with it, within the slack of each.
-/
import Mathlib.Algebra.Order.Group.Defs
import Mathlib.Algebra.Group.Basic
import Mathlib.Order.MinMax
import Mathlib.Data.List.MinMax

namespace Elimination

/-- A number to be made small, and how far from the best one may be. -/
structure Criterion (α β : Type*) where
  value : α → β
  slack : β

variable {α β : Type*} [AddCommGroup β] [LinearOrder β]

namespace Criterion

/-- `x` is within the slack of every alternative. -/
def Within (c : Criterion α β) (xs : List α) (x : α) : Prop :=
  ∀ y ∈ xs, c.value x ≤ c.value y + c.slack

instance (c : Criterion α β) (xs : List α) (x : α) : Decidable (c.Within xs x) :=
  inferInstanceAs (Decidable (∀ y ∈ xs, _))

/-- The survivors of a round. -/
def keep (c : Criterion α β) (xs : List α) : List α := xs.filter fun x => c.Within xs x

theorem keep_sublist (c : Criterion α β) (xs : List α) : (c.keep xs).Sublist xs :=
  List.filter_sublist

theorem mem_keep {c : Criterion α β} {xs : List α} {x : α} :
    x ∈ c.keep xs ↔ x ∈ xs ∧ c.Within xs x := by
  simp [keep]

end Criterion

/-- The rounds up to the first that leaves one alternative. -/
def rounds : List (Criterion α β) → List α → List (Criterion α β × List α)
  | [], _ => []
  | c :: cs, xs => (c, xs) :: if (c.keep xs).length = 1 then [] else rounds cs (c.keep xs)

/-- What is left at the end. -/
def survivors : List (Criterion α β) → List α → List α
  | [], xs => xs
  | c :: cs, xs => if (c.keep xs).length = 1 then c.keep xs else survivors cs (c.keep xs)

theorem survivors_sublist (cs : List (Criterion α β)) (xs : List α) :
    (survivors cs xs).Sublist xs := by
  induction cs generalizing xs with
  | nil => exact List.Sublist.refl _
  | cons c cs ih =>
    rw [survivors]
    split_ifs
    · exact c.keep_sublist xs
    · exact (ih _).trans (c.keep_sublist xs)

variable [IsOrderedAddMonoid β]

omit [AddCommGroup β] [IsOrderedAddMonoid β] in
/-- A nonempty list has a member of least value. -/
theorem exists_least (f : α → β) {xs : List α} (hxs : xs ≠ []) :
    ∃ x ∈ xs, ∀ y ∈ xs, f x ≤ f y := by
  induction xs with
  | nil => exact absurd rfl hxs
  | cons x xs ih =>
    by_cases hnil : xs = []
    · exact ⟨x, List.mem_cons_self .., by simp [hnil]⟩
    · obtain ⟨z, hz, hmin⟩ := ih hnil
      rcases le_total (f x) (f z) with h | h
      · refine ⟨x, List.mem_cons_self .., fun y hy => ?_⟩
        rcases List.mem_cons.mp hy with rfl | hy
        · exact le_rfl
        · exact h.trans (hmin y hy)
      · refine ⟨z, List.mem_cons_of_mem _ hz, fun y hy => ?_⟩
        rcases List.mem_cons.mp hy with rfl | hy
        · exact h
        · exact hmin y hy

/-- With a slack that is not negative the best alternative survives its round. -/
theorem Criterion.keep_ne_nil {c : Criterion α β} (hslack : 0 ≤ c.slack) {xs : List α}
    (hxs : xs ≠ []) : c.keep xs ≠ [] := by
  obtain ⟨x, hx, hmin⟩ := exists_least c.value hxs
  refine List.ne_nil_of_mem (Criterion.mem_keep.mpr ⟨hx, fun y hy => ?_⟩)
  exact (hmin y hy).trans (le_add_of_nonneg_right hslack)

theorem survivors_ne_nil {cs : List (Criterion α β)} (hslack : ∀ c ∈ cs, 0 ≤ c.slack)
    {xs : List α} (hxs : xs ≠ []) : survivors cs xs ≠ [] := by
  induction cs generalizing xs with
  | nil => exact hxs
  | cons c cs ih =>
    have hkeep := Criterion.keep_ne_nil (hslack c (List.mem_cons_self ..)) hxs
    rw [survivors]
    split_ifs
    · exact hkeep
    · exact ih (fun d hd => hslack d (List.mem_cons_of_mem _ hd)) hkeep

/-- A round applies one of the criteria to some of the alternatives. -/
theorem of_mem_rounds {cs : List (Criterion α β)} (hslack : ∀ c ∈ cs, 0 ≤ c.slack) {xs : List α}
    (hxs : xs ≠ []) {round : Criterion α β × List α} (h : round ∈ rounds cs xs) :
    round.1 ∈ cs ∧ round.2.Sublist xs ∧ round.2 ≠ [] := by
  induction cs generalizing xs with
  | nil => exact absurd h List.not_mem_nil
  | cons c cs ih =>
    rw [rounds] at h
    rcases List.mem_cons.mp h with rfl | h
    · exact ⟨List.mem_cons_self .., List.Sublist.refl _, hxs⟩
    · split_ifs at h
      · exact absurd h List.not_mem_nil
      · obtain ⟨hc, hsub, hne⟩ := ih (fun d hd => hslack d (List.mem_cons_of_mem _ hd))
          (Criterion.keep_ne_nil (hslack c (List.mem_cons_self ..)) hxs) h
        exact ⟨List.mem_cons_of_mem _ hc, hsub.trans (c.keep_sublist xs), hne⟩

omit [IsOrderedAddMonoid β] in
/-- What is at least as good as a survivor of a round survives it too. -/
theorem Criterion.mem_keep_of_le {c : Criterion α β} {xs : List α} {x y : α} (hx : x ∈ xs)
    (hy : y ∈ c.keep xs) (h : c.value x ≤ c.value y) : x ∈ c.keep xs :=
  Criterion.mem_keep.mpr ⟨hx, fun z hz => h.trans ((Criterion.mem_keep.mp hy).2 z hz)⟩

omit [IsOrderedAddMonoid β] in
/-- Dominance: `x` survives with `y`, and no criterion separates them by more
than its slack. -/
theorem mem_survivors_of_dominates {cs : List (Criterion α β)} {xs : List α} {x y : α}
    (hne : x ≠ y) (hx : x ∈ xs) (hy : y ∈ survivors cs xs)
    (h : ∀ c ∈ cs, c.value x ≤ c.value y) :
    x ∈ survivors cs xs ∧ ∀ c ∈ cs, c.value y ≤ c.value x + c.slack := by
  induction cs generalizing xs with
  | nil => exact ⟨hx, by simp⟩
  | cons c cs ih =>
    have hkeep : ∀ {ys : List α}, ys.Sublist (c.keep xs) → y ∈ ys → y ∈ c.keep xs := fun hsub hmem =>
      hsub.subset hmem
    rw [survivors] at hy ⊢
    split_ifs at hy ⊢ with hone
    · -- one survivor cannot be both
      have hx' := Criterion.mem_keep_of_le hx hy (h c (List.mem_cons_self ..))
      obtain ⟨z, hz⟩ := List.length_eq_one_iff.mp hone
      rw [hz] at hx' hy
      exact absurd ((List.mem_singleton.mp hx').trans (List.mem_singleton.mp hy).symm) hne
    · have hy' := hkeep (survivors_sublist cs _) hy
      have hx' := Criterion.mem_keep_of_le hx hy' (h c (List.mem_cons_self ..))
      obtain ⟨hmem, hslack⟩ := ih hx' hy fun d hd => h d (List.mem_cons_of_mem _ hd)
      refine ⟨hmem, fun d hd => ?_⟩
      rcases List.mem_cons.mp hd with rfl | hd
      · exact (Criterion.mem_keep.mp hy').2 x hx
      · exact hslack d hd

end Elimination
