/-
A pool that is filled and drawn from in turns.

In each turn something is added to the pool and then as much of what is asked
for is taken as there is.  Nothing asked for in one turn waits for a later one.

* `taken`, `missed` — what each turn takes, and what it does not get;
* `pool_add_sum_taken` — nothing is lost or created;
* `sum_missed_eq_shortfall` — the total missed is the running maximum of what
  was asked for less what was available (a reflected sum);
* `getElem_missed` — what a single turn misses, by what is left before it;
* `missed_eq_growth` — what a single turn misses is the rise of that maximum;
* `missed_le_of_le` — a fuller pool and larger additions leave no turn worse
  off.
-/
import Mathlib.Algebra.Order.Group.Lattice
import Mathlib.Algebra.Order.Group.MinMax
import Mathlib.Algebra.BigOperators.Group.List.Basic
import Mathlib.Algebra.Order.BigOperators.Group.List
import Mathlib.Tactic.Abel

namespace Pool

/-- One turn: what is added first, and what is asked for then. -/
structure Turn (α : Type*) where
  added : α
  asked : α

variable {α : Type*} [AddCommGroup α] [LinearOrder α]

/-- What each turn takes out of the pool. -/
def taken : α → List (Turn α) → List α
  | _, [] => []
  | pool, t :: ts =>
    min (pool + t.added) t.asked :: taken (pool + t.added - min (pool + t.added) t.asked) ts

/-- What each turn asks for and does not get. -/
def missed : α → List (Turn α) → List α
  | _, [] => []
  | pool, t :: ts =>
    (t.asked - min (pool + t.added) t.asked) ::
      missed (pool + t.added - min (pool + t.added) t.asked) ts

/-- What is in the pool after the turns. -/
def remaining : α → List (Turn α) → α
  | pool, [] => pool
  | pool, t :: ts => remaining (pool + t.added - min (pool + t.added) t.asked) ts

/-- The running maximum of what was asked for less what was available, starting
from `debt` asked for in excess and `high` as the maximum so far. -/
def shortfall : α → α → List (Turn α) → α
  | _, high, [] => high
  | debt, high, t :: ts =>
    shortfall (debt + t.asked - t.added) (max high (debt + t.asked - t.added)) ts

@[simp] theorem length_taken (pool : α) (ts : List (Turn α)) :
    (taken pool ts).length = ts.length := by
  induction ts generalizing pool with
  | nil => rfl
  | cons t ts ih => simp [taken, ih]

@[simp] theorem length_missed (pool : α) (ts : List (Turn α)) :
    (missed pool ts).length = ts.length := by
  induction ts generalizing pool with
  | nil => rfl
  | cons t ts ih => simp [missed, ih]

theorem missed_take (pool : α) (ts : List (Turn α)) (k : Nat) :
    missed pool (ts.take k) = (missed pool ts).take k := by
  induction ts generalizing pool k with
  | nil => simp [missed]
  | cons t ts ih =>
    cases k with
    | zero => rfl
    | succ k => simp [missed, ih]

theorem taken_eq (pool : α) (ts : List (Turn α)) :
    taken pool ts = List.zipWith (fun t m => t.asked - m) ts (missed pool ts) := by
  induction ts generalizing pool with
  | nil => rfl
  | cons t ts ih => simp [taken, missed, ← ih]

/-- The running maximum, written out. -/
theorem shortfall_eq_foldl (debt high : α) (ts : List (Turn α)) :
    shortfall debt high ts =
      ((List.range ts.length).map fun k => debt + ((ts.take (k + 1)).map Turn.asked).sum -
        ((ts.take (k + 1)).map Turn.added).sum).foldl max high := by
  induction ts generalizing debt high with
  | nil => rfl
  | cons t ts ih =>
    rw [shortfall, ih, List.length_cons, List.range_succ_eq_map, List.map_cons, List.foldl_cons,
      List.map_map]
    congr 1
    · simp
    · refine List.map_congr_left fun k _ => ?_
      simp only [Function.comp, Nat.succ_eq_add_one, List.take_succ_cons, List.map_cons,
        List.sum_cons]
      abel

/-! ### Nothing is lost -/

theorem pool_add_sum_added (pool : α) (ts : List (Turn α)) :
    pool + (ts.map Turn.added).sum = (taken pool ts).sum + remaining pool ts := by
  induction ts generalizing pool with
  | nil => simp [taken, remaining]
  | cons t ts ih =>
    have h := ih (pool + t.added - min (pool + t.added) t.asked)
    simp only [List.map_cons, List.sum_cons, taken, remaining]
    rw [add_assoc, ← h]
    abel

theorem sum_taken_add_sum_missed (pool : α) (ts : List (Turn α)) :
    (taken pool ts).sum + (missed pool ts).sum = (ts.map Turn.asked).sum := by
  induction ts generalizing pool with
  | nil => simp [taken, missed]
  | cons t ts ih =>
    have h := ih (pool + t.added - min (pool + t.added) t.asked)
    simp only [List.map_cons, List.sum_cons, taken, missed]
    rw [← h]
    abel

/-! ### Signs -/

variable [IsOrderedAddMonoid α]

theorem missed_nonneg (pool : α) (ts : List (Turn α)) : ∀ m ∈ missed pool ts, 0 ≤ m := by
  induction ts generalizing pool with
  | nil => simp [missed]
  | cons t ts ih =>
    simp only [missed, List.mem_cons]
    rintro m (rfl | hm)
    · exact sub_nonneg.mpr (min_le_right _ _)
    · exact ih _ m hm

theorem remaining_nonneg {pool : α} (hpool : 0 ≤ pool) (ts : List (Turn α)) :
    0 ≤ remaining pool ts := by
  induction ts generalizing pool with
  | nil => exact hpool
  | cons t ts ih => exact ih (sub_nonneg.mpr (min_le_left _ _))

theorem taken_nonneg {pool : α} (hpool : 0 ≤ pool) {ts : List (Turn α)}
    (hts : ∀ t ∈ ts, 0 ≤ t.added ∧ 0 ≤ t.asked) : ∀ a ∈ taken pool ts, 0 ≤ a := by
  induction ts generalizing pool with
  | nil => simp [taken]
  | cons t ts ih =>
    obtain ⟨hadded, hasked⟩ := hts t (List.mem_cons_self ..)
    simp only [taken, List.mem_cons]
    rintro a (rfl | ha)
    · exact le_min (add_nonneg hpool hadded) hasked
    · exact ih (sub_nonneg.mpr (min_le_left _ _)) (fun u hu => hts u (List.mem_cons_of_mem _ hu)) a ha

/-! ### The total missed -/

/-- What the turns miss is how far the running maximum rises. -/
theorem sum_missed_eq_shortfall_sub (debt high : α) (ts : List (Turn α)) :
    (missed (high - debt) ts).sum = shortfall debt high ts - high := by
  induction ts generalizing debt high with
  | nil => simp [missed, shortfall]
  | cons t ts ih =>
    set debt' := debt + t.asked - t.added with hdebt
    set high' := max high debt' with hhigh
    -- a turn takes what keeps the pool at the distance of the two
    have htaken : min (high - debt + t.added) t.asked = t.asked - (high' - high) := by
      rcases le_total high debt' with h | h
      · rw [hhigh, max_eq_right h, hdebt, min_eq_left]
        · abel
        · have := sub_nonneg.mpr h
          rw [hdebt] at this
          rw [← sub_nonneg]
          convert this using 1
          abel
      · rw [hhigh, max_eq_left h, sub_self, sub_zero, min_eq_right]
        have := sub_nonneg.mpr h
        rw [hdebt] at this
        rw [← sub_nonneg]
        convert this using 1
        abel
    have hpool : high - debt + t.added - (t.asked - (high' - high)) = high' - debt' := by
      rw [hdebt]
      abel
    simp only [missed, shortfall, List.sum_cons]
    rw [htaken, hpool, ih, ← hdebt, ← hhigh]
    abel

/-- From a pool and no miss so far. -/
theorem sum_missed_eq_shortfall (pool : α) (ts : List (Turn α)) :
    (missed pool ts).sum = shortfall (-pool) 0 ts := by
  have h := sum_missed_eq_shortfall_sub (-pool) 0 ts
  simpa using h

/-- What turn `k` misses is the rise of the running maximum at it. -/
theorem missed_eq_growth (pool : α) (ts : List (Turn α)) :
    missed pool ts = (List.range ts.length).map fun k =>
      shortfall (-pool) 0 (ts.take (k + 1)) - shortfall (-pool) 0 (ts.take k) := by
  refine List.ext_getElem (by simp) fun k hk _ => ?_
  have hsucc : ((missed pool ts).take (k + 1)).sum =
      ((missed pool ts).take k).sum + (missed pool ts)[k] := by
    rw [List.take_succ_eq_append_getElem hk, List.sum_append, List.sum_singleton]
  rw [List.getElem_map, List.getElem_range, ← sum_missed_eq_shortfall, ← sum_missed_eq_shortfall,
    missed_take, missed_take, hsucc]
  abel

/-! ### Comparing pools -/

/-- A fuller pool has more left after the same demand. -/
theorem sub_min_le_sub_min {a b : α} (h : a ≤ b) (c : α) : a - min a c ≤ b - min b c := by
  rcases le_total a c with hac | hca
  · rw [min_eq_left hac, sub_self]
    exact sub_nonneg.mpr (min_le_left _ _)
  · rw [min_eq_right hca, min_eq_right (hca.trans h)]
    exact sub_le_sub_right h c

/-- Turn for turn the second sequence asks the same and adds at least as much. -/
def AddsMore (ts us : List (Turn α)) : Prop :=
  List.Forall₂ (fun t u => t.asked = u.asked ∧ t.added ≤ u.added) ts us

theorem missed_le_of_le {pool pool' : α} (hpool : pool ≤ pool') {ts us : List (Turn α)}
    (h : AddsMore ts us) : List.Forall₂ (· ≤ ·) (missed pool' us) (missed pool ts) := by
  induction h generalizing pool pool' with
  | nil => exact List.Forall₂.nil
  | @cons t u ts us htu _ ih =>
    obtain ⟨hasked, hadded⟩ := htu
    have hle : pool + t.added ≤ pool' + u.added := add_le_add hpool hadded
    simp only [missed]
    rw [← hasked]
    exact List.Forall₂.cons (sub_le_sub_left (min_le_min_right _ hle) _)
      (ih (sub_min_le_sub_min hle t.asked))

end Pool
