/-
Sorting by a key.

* `total_of_key`, `trans_of_key` — a relation that compares keys orders;
* `eq_of_perm` — entries with keys of their own have one sorted list;
* `map_eq_of_perm` — also after a map that keeps the keys;
* `eq_of_rel` — a relation that compares the keys of the entries;
* `ListedAs` — a list of related entries, in any order.
-/
import Mathlib.Data.List.Forall2
import Mathlib.Data.List.Sort

namespace Sorting

variable {α β κ : Type} [LinearOrder κ] {key : α → κ} {l l' : List α}

theorem total_of_key {r : α → α → Prop} (key : α → κ) (h : ∀ a b, r a b ↔ key a ≤ key b) :
    Std.Total r where
  total a b := by
    rw [h, h]
    exact le_total (key a) (key b)

theorem trans_of_key {r : α → α → Prop} (key : α → κ) (h : ∀ a b, r a b ↔ key a ≤ key b) :
    IsTrans α r where
  trans a b c hab hbc := by
    rw [h] at *
    exact hab.trans hbc

theorem pairwise_sorted (key : α → κ) (l : List α) [DecidableRel fun a b : α => key a ≤ key b] :
    (l.insertionSort fun a b => key a ≤ key b).Pairwise fun a b => key a ≤ key b := by
  have htotal : Std.Total fun a b : α => key a ≤ key b := total_of_key key fun _ _ => Iff.rfl
  have htrans : IsTrans α fun a b => key a ≤ key b := trans_of_key key fun _ _ => Iff.rfl
  exact List.pairwise_insertionSort _ _

/-- Entries with keys of their own have one sorted list. -/
theorem eq_of_perm [DecidableRel fun a b : α => key a ≤ key b] (hperm : l'.Perm l)
    (hkeys : (l.map key).Nodup) :
    (l'.insertionSort fun a b => key a ≤ key b) = l.insertionSort fun a b => key a ≤ key b := by
  have hsorted : (l'.insertionSort fun a b => key a ≤ key b).Perm
      (l.insertionSort fun a b => key a ≤ key b) :=
    (List.perm_insertionSort _ _).trans (hperm.trans (List.perm_insertionSort _ _).symm)
  refine hsorted.eq_of_pairwise (fun a b ha hb hab hba => ?_) (pairwise_sorted key l')
    (pairwise_sorted key l)
  have ha : a ∈ l := hperm.mem_iff.mp ((List.mem_insertionSort _).mp ha)
  have hb : b ∈ l := (List.mem_insertionSort _).mp hb
  exact List.inj_on_of_nodup_map hkeys ha hb (le_antisymm hab hba)

/-- A map that keeps the keys commutes with sorting. -/
theorem map_sorted (key : α → κ) [DecidableRel fun a b : α => key a ≤ key b] {f : α → β}
    (keyOf : β → κ) [DecidableRel fun a b : β => keyOf a ≤ keyOf b]
    (hkey : ∀ a, keyOf (f a) = key a) (l : List α) :
    (l.insertionSort fun a b => key a ≤ key b).map f =
      (l.map f).insertionSort fun a b => keyOf a ≤ keyOf b :=
  List.map_insertionSort _ _ f l fun a _ b _ => by rw [hkey, hkey]

/-- Entries that a map makes equal are sorted to the same images. -/
theorem map_eq_of_perm [DecidableRel fun a b : α => key a ≤ key b] {f : α → β} (keyOf : β → κ)
    [DecidableRel fun a b : β => keyOf a ≤ keyOf b] (hkey : ∀ a, keyOf (f a) = key a)
    (hperm : (l'.map f).Perm (l.map f)) (hkeys : (l.map key).Nodup) :
    (l'.insertionSort fun a b => key a ≤ key b).map f =
      (l.insertionSort fun a b => key a ≤ key b).map f := by
  have hkeys' : ((l.map f).map keyOf).Nodup := by
    have heq : keyOf ∘ f = key := funext hkey
    rw [List.map_map, heq]
    exact hkeys
  rw [map_sorted key keyOf hkey, map_sorted key keyOf hkey, eq_of_perm hperm hkeys']

/-- A relation that compares the keys of the entries. -/
theorem eq_of_rel {r : α → α → Prop} [DecidableRel r] [DecidableRel fun a b : α => key a ≤ key b]
    (h : ∀ a ∈ l, ∀ b ∈ l, r a b ↔ key a ≤ key b) :
    l.insertionSort r = l.insertionSort fun a b => key a ≤ key b := by
  have hmap := List.map_insertionSort r (fun a b : α => key a ≤ key b) id l h
  rwa [List.map_id, List.map_id] at hmap

/-! ### Related entries in any order -/

/-- The second list has the entries of the first one, each changed by `R`, in any order. -/
def ListedAs (R : α → α → Prop) (l l' : List α) : Prop :=
  ∃ m, List.Forall₂ R l m ∧ l'.Perm m

/-- What related entries share is shared by the lists, up to their order. -/
theorem ListedAs.map_perm {R : α → α → Prop} (h : ListedAs R l l') {f : α → β}
    (hf : ∀ a b, R a b → f b = f a) : (l'.map f).Perm (l.map f) := by
  obtain ⟨m, hrel, hperm⟩ := h
  refine (hperm.map f).trans ?_
  have heq : m.map f = l.map f := by
    clear hperm
    induction hrel with
    | nil => rfl
    | cons hab _ ih => rw [List.map_cons, List.map_cons, hf _ _ hab, ih]
  rw [heq]

end Sorting
