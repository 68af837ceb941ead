/-
Running balances of lists of entries.

* `balances` — the balance after each entry, in the order of the list;
* `mem_balances` — in a list sorted by keys, the balance after an entry is what the
  balance starts with and everything with a key up to the entry's own;
* `sum_groups` — the totals of the keys add up to the total of the entries.
-/
import Mathlib.Algebra.Order.BigOperators.Group.List
import Mathlib.Data.Int.Basic
import Mathlib.Data.List.Nodup
import Mathlib.Order.Basic
import Mathlib.Tactic.Common
import Mathlib.Tactic.Linarith

namespace Ledger

variable {α κ : Type}

/-- The entries with the balance after each. -/
def balances (amount : α → ℤ) : ℤ → List α → List (α × ℤ)
  | _, [] => []
  | balance, a :: as => (a, balance + amount a) :: balances amount (balance + amount a) as

theorem map_fst_balances (amount : α → ℤ) (start : ℤ) (as : List α) :
    (balances amount start as).map Prod.fst = as := by
  induction as generalizing start with
  | nil => rfl
  | cons a as ih => rw [balances, List.map_cons, ih]

/-- The balance after an entry of a list that is sorted by keys. -/
theorem mem_balances [LinearOrder κ] {amount : α → ℤ} (key : α → κ) {start : ℤ} {as : List α}
    (hsorted : as.Pairwise fun a b => key a < key b) {a : α} {b : ℤ} :
    (a, b) ∈ balances amount start as ↔
      a ∈ as ∧ b = start + ((as.filter fun x => key x ≤ key a).map amount).sum := by
  induction as generalizing start with
  | nil => simp [balances]
  | cons first as ih =>
    obtain ⟨hfirst, hrest⟩ := List.pairwise_cons.mp hsorted
    have hnone : as.filter (fun x => key x ≤ key first) = [] := by
      refine List.filter_eq_nil_iff.mpr fun x hx => ?_
      rw [decide_eq_true_eq, not_le]
      exact hfirst x hx
    have hnotMem : first ∉ as := fun hmem => lt_irrefl _ (hfirst first hmem)
    rw [balances, List.mem_cons, List.mem_cons, ih hrest, Prod.mk.injEq]
    constructor
    · rintro (⟨rfl, rfl⟩ | ⟨hmem, rfl⟩)
      · -- the first entry is alone up to its key
        rw [List.filter_cons_of_pos (by simp), hnone]
        simp
      · rw [List.filter_cons_of_pos (by simpa using (hfirst a hmem).le), List.map_cons,
          List.sum_cons]
        exact ⟨.inr hmem, by omega⟩
    · rintro ⟨rfl | hmem, rfl⟩
      · rw [List.filter_cons_of_pos (by simp), hnone]
        simp
      · rw [List.filter_cons_of_pos (by simpa using (hfirst a hmem).le), List.map_cons,
          List.sum_cons]
        exact .inr ⟨hmem, by omega⟩

theorem sum_map_sub (f g : α → ℤ) (as : List α) :
    (as.map fun a => f a - g a).sum = (as.map f).sum - (as.map g).sum := by
  induction as with
  | nil => rfl
  | cons a as ih =>
    rw [List.map_cons, List.sum_cons, ih, List.map_cons, List.sum_cons, List.map_cons,
      List.sum_cons]
    omega

theorem sum_map_neg (f : α → ℤ) (as : List α) :
    (as.map fun a => -f a).sum = -(as.map f).sum := by
  induction as with
  | nil => rfl
  | cons a as ih =>
    rw [List.map_cons, List.sum_cons, ih, List.map_cons, List.sum_cons]
    omega

/-- A summand of one key. -/
theorem sum_single [DecidableEq κ] {keys : List κ} (hkeys : keys.Nodup) (k : κ) (x : ℤ) :
    (keys.map fun j => if k = j then x else 0).sum = if k ∈ keys then x else 0 := by
  induction keys with
  | nil => rfl
  | cons j keys ih =>
    obtain ⟨hnotMem, hrest⟩ := List.nodup_cons.mp hkeys
    rw [List.map_cons, List.sum_cons, ih hrest]
    by_cases hj : k = j
    · subst hj
      simp [hnotMem]
    · simp [hj]

/-- Where every key is listed once, the totals of the listed keys add up to the total
of the entries with such a key. -/
theorem sum_groups [DecidableEq κ] {key : α → κ} {amount : α → ℤ} {keys : List κ}
    (hkeys : keys.Nodup) {entries : List α} (hall : ∀ e ∈ entries, key e ∈ keys)
    (p : κ → Prop) [DecidablePred p] :
    ((keys.filter fun k => p k).map fun k =>
      ((entries.filter fun e => key e = k).map amount).sum).sum =
        ((entries.filter fun e => p (key e)).map amount).sum := by
  induction entries with
  | nil => simp
  | cons e entries ih =>
    have hrest := ih fun x hx => hall x (List.mem_cons_of_mem _ hx)
    have hsplit : ∀ k, (((e :: entries).filter fun e => key e = k).map amount).sum =
        (if key e = k then amount e else 0) +
          ((entries.filter fun e => key e = k).map amount).sum := by
      intro k
      by_cases hk : key e = k <;> simp [hk]
    have hone : ((keys.filter fun k => p k).map fun k => if key e = k then amount e else 0).sum =
        if p (key e) then amount e else 0 := by
      rw [sum_single (hkeys.filter _)]
      simp [hall e (List.mem_cons_self ..)]
    rw [List.map_congr_left fun k _ => hsplit k, List.sum_map_add, hone, hrest]
    by_cases hp : p (key e) <;> simp [hp]

end Ledger
