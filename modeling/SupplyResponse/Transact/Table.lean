/-
Tables with unique indexes.

A row lists the values it takes in all unique indexes of its table; a `Table`
carries the proof that no two of its rows share one, so a lookup by a unique
value has at most one answer and the order of the rows is immaterial to it.

* `Table.get?_eq_some_iff` — a lookup finds exactly the stored row with the key;
* `Table.mem_add`, `Table.get?_add` — insertion of a row whose keys are free;
* `Table.mem_modify`, `Table.get?_modify` — updates that keep the keys;
* `Table.mem_delete`, `Table.get?_delete_self` — deletion by key;
* `Table.latest`, `Table.latest_add` — the selected row of greatest rank.
-/
import Mathlib.Data.List.MinMax
import Mathlib.Data.List.Pairwise
import Mathlib.Tactic.Common

namespace Transact

/-- The values of a row in the unique indexes of its table. -/
class Keyed (κ : outParam Type) (ρ : Type) where
  keys : ρ → List κ

open Keyed (keys)

/-- Rows of which no two share a value of a unique index. -/
structure Table (κ ρ : Type) [Keyed κ ρ] where
  rows : List ρ
  unique : rows.Pairwise fun r r' => ∀ k ∈ keys r, k ∉ keys r'

namespace Table

variable {κ ρ : Type} [Keyed κ ρ]

instance : Membership ρ (Table κ ρ) := ⟨fun t r => r ∈ t.rows⟩

instance : EmptyCollection (Table κ ρ) := ⟨⟨[], .nil⟩⟩

instance : Inhabited (Table κ ρ) := ⟨∅⟩

theorem mem_def {t : Table κ ρ} {r : ρ} : r ∈ t ↔ r ∈ t.rows := Iff.rfl

@[simp] theorem notMem_empty (r : ρ) : r ∉ (∅ : Table κ ρ) := List.not_mem_nil

instance [DecidableEq ρ] (t : Table κ ρ) (r : ρ) : Decidable (r ∈ t) :=
  inferInstanceAs (Decidable (r ∈ t.rows))

instance [DecidableEq ρ] : DecidableEq (Table κ ρ)
  | ⟨rows, _⟩, ⟨rows', _⟩ =>
    decidable_of_iff (rows = rows') ⟨fun h => by subst h; rfl, fun h => congrArg Table.rows h⟩

/-- Two stored rows with a common key are the same row. -/
theorem eq_of_key {t : Table κ ρ} {r r' : ρ} {k : κ} (hr : r ∈ t) (hr' : r' ∈ t)
    (hk : k ∈ keys r) (hk' : k ∈ keys r') : r = r' := by
  obtain ⟨rows, hu⟩ := t
  change r ∈ rows at hr
  change r' ∈ rows at hr'
  induction hu with
  | nil => cases hr
  | @cons a l hal _ ih =>
    rcases List.mem_cons.mp hr with ha | hl
    · rcases List.mem_cons.mp hr' with ha' | hl'
      · exact ha.trans ha'.symm
      · exact absurd hk' (hal r' hl' k (ha ▸ hk))
    · rcases List.mem_cons.mp hr' with ha' | hl'
      · exact absurd hk (hal r hl k (ha' ▸ hk'))
      · exact ih hl hl'

variable [DecidableEq κ]

/-- The row with the given unique value. -/
def get? (t : Table κ ρ) (k : κ) : Option ρ := t.rows.find? fun r => k ∈ keys r

theorem get?_eq_some_iff {t : Table κ ρ} {k : κ} {r : ρ} :
    t.get? k = some r ↔ r ∈ t ∧ k ∈ keys r := by
  constructor
  · intro h
    exact ⟨List.mem_of_find?_eq_some h, by simpa using List.find?_some h⟩
  · rintro ⟨hr, hk⟩
    have hsome : (t.rows.find? fun r => decide (k ∈ keys r)).isSome :=
      List.find?_isSome.mpr ⟨r, hr, by simpa using hk⟩
    obtain ⟨r', hr'⟩ := Option.isSome_iff_exists.mp hsome
    have hk' : k ∈ keys r' := by simpa using List.find?_some hr'
    rw [eq_of_key hr (List.mem_of_find?_eq_some hr') hk hk']
    exact hr'

theorem get?_eq_none_iff {t : Table κ ρ} {k : κ} :
    t.get? k = none ↔ ∀ r ∈ t, k ∉ keys r := by
  simp [get?, mem_def]

theorem mem_of_get? {t : Table κ ρ} {k : κ} {r : ρ} (h : t.get? k = some r) : r ∈ t :=
  (get?_eq_some_iff.mp h).1

theorem get?_of_mem {t : Table κ ρ} {k : κ} {r : ρ} (h : r ∈ t) (hk : k ∈ keys r) :
    t.get? k = some r :=
  get?_eq_some_iff.mpr ⟨h, hk⟩

@[simp] theorem get?_empty (k : κ) : (∅ : Table κ ρ).get? k = none := rfl

/-! ### Insertion -/

/-- No stored row has a key of `r`. -/
def Free (t : Table κ ρ) (r : ρ) : Prop := ∀ k ∈ keys r, t.get? k = none

instance (t : Table κ ρ) (r : ρ) : Decidable (t.Free r) :=
  decidable_of_iff (∀ k ∈ keys r, (t.get? k).isNone)
    (by simp only [Free, Option.isNone_iff_eq_none])

theorem free_iff {t : Table κ ρ} {r : ρ} :
    t.Free r ↔ ∀ r' ∈ t, ∀ k ∈ keys r', k ∉ keys r := by
  simp only [Free, get?_eq_none_iff]
  exact ⟨fun h r' hr' k hk hk' => h k hk' r' hr' hk, fun h k hk r' hr' hk' => h r' hr' k hk' hk⟩

/-- Insert `r`; the table is kept as it is where a unique index forbids it. -/
def add (t : Table κ ρ) (r : ρ) : Table κ ρ :=
  if h : t.Free r then
    ⟨t.rows ++ [r], by
      rw [List.pairwise_append]
      refine ⟨t.unique, List.pairwise_singleton _ _, fun r' hr' x hx k hk => ?_⟩
      rw [List.mem_singleton.mp hx]
      exact free_iff.mp h r' hr' k hk⟩
  else t

theorem rows_add {t : Table κ ρ} {r : ρ} (h : t.Free r) : (t.add r).rows = t.rows ++ [r] := by
  rw [add, dif_pos h]

theorem mem_add {t : Table κ ρ} {r x : ρ} (h : t.Free r) : x ∈ t.add r ↔ x ∈ t ∨ x = r := by
  rw [mem_def, rows_add h, List.mem_append, List.mem_singleton, mem_def]

theorem mem_add_self {t : Table κ ρ} {r : ρ} (h : t.Free r) : r ∈ t.add r :=
  (mem_add h).mpr (.inr rfl)

theorem mem_add_of_mem {t : Table κ ρ} {r x : ρ} (h : x ∈ t) : x ∈ t.add r := by
  by_cases hr : t.Free r
  · exact (mem_add hr).mpr (.inl h)
  · rwa [add, dif_neg hr]

theorem get?_add {t : Table κ ρ} {r : ρ} (h : t.Free r) (k : κ) :
    (t.add r).get? k = if k ∈ keys r then some r else t.get? k := by
  split
  · rename_i hk
    exact get?_of_mem (mem_add_self h) hk
  · rename_i hk
    have : ∀ x, (t.add r).get? k = some x ↔ t.get? k = some x := by
      intro x
      rw [get?_eq_some_iff, get?_eq_some_iff, mem_add h]
      constructor
      · rintro ⟨hx | rfl, hkx⟩
        · exact ⟨hx, hkx⟩
        · exact absurd hkx hk
      · rintro ⟨hx, hkx⟩
        exact ⟨.inl hx, hkx⟩
    exact Option.ext this

/-- A selection from the rows, after the insertion of a selected row. -/
theorem filter_add_of_pos {t : Table κ ρ} {r : ρ} {p : ρ → Bool} (h : t.Free r)
    (hp : p r = true) : (t.add r).rows.filter p = t.rows.filter p ++ [r] := by
  rw [rows_add h, List.filter_append, List.filter_cons_of_pos hp, List.filter_nil]

/-- A selection from the rows, after the insertion of another row. -/
theorem filter_add_of_neg {t : Table κ ρ} {r : ρ} {p : ρ → Bool} (hp : p r = false) :
    (t.add r).rows.filter p = t.rows.filter p := by
  by_cases h : t.Free r
  · rw [rows_add h, List.filter_append, List.filter_cons_of_neg (by simp [hp]), List.filter_nil,
      List.append_nil]
  · rw [add, dif_neg h]

/-- A stored row stays where it was found. -/
theorem get?_add_of_some {t : Table κ ρ} {r x : ρ} {k : κ} (h : t.get? k = some x) :
    (t.add r).get? k = some x :=
  get?_of_mem (mem_add_of_mem (mem_of_get? h)) (get?_eq_some_iff.mp h).2

/-! ### Update and deletion -/

/-- Rewrite the row with key `k` by `f`, which keeps all keys of that row. -/
def modify (t : Table κ ρ) (k : κ) (f : ρ → ρ) (hf : ∀ r, k ∈ keys r → keys (f r) = keys r) :
    Table κ ρ :=
  ⟨t.rows.map fun r => if k ∈ keys r then f r else r, by
    refine List.pairwise_map.mpr (t.unique.imp fun {r r'} h => ?_)
    have hkeys : ∀ x : ρ, keys (if k ∈ keys x then f x else x) = keys x := by
      intro x
      split
      · exact hf x ‹_›
      · rfl
    rw [hkeys r, hkeys r']
    exact h⟩

variable {k : κ} {f : ρ → ρ} {hf : ∀ r : ρ, k ∈ keys r → keys (f r) = keys r}

theorem mem_modify {t : Table κ ρ} {x : ρ} :
    x ∈ t.modify k f hf ↔ ∃ r ∈ t, x = if k ∈ keys r then f r else r := by
  simp only [mem_def, modify, List.mem_map]
  exact ⟨fun ⟨r, hr, h⟩ => ⟨r, hr, h.symm⟩, fun ⟨r, hr, h⟩ => ⟨r, hr, h.symm⟩⟩

/-- The rows after the row with key `k` was rewritten. -/
theorem mem_modify_of_get? {t : Table κ ρ} {r x : ρ} (h : t.get? k = some r) :
    x ∈ t.modify k f hf ↔ x = f r ∨ x ∈ t ∧ x ≠ r := by
  obtain ⟨hr, hk⟩ := get?_eq_some_iff.mp h
  rw [mem_modify]
  constructor
  · rintro ⟨y, hy, rfl⟩
    by_cases hyk : k ∈ keys y
    · obtain rfl := eq_of_key hy hr hyk hk
      exact .inl (if_pos hyk)
    · rw [if_neg hyk]
      exact .inr ⟨hy, fun heq => hyk (heq ▸ hk)⟩
  · rintro (rfl | ⟨hx, hne⟩)
    · exact ⟨r, hr, (if_pos hk).symm⟩
    · exact ⟨x, hx, (if_neg fun hxk => hne (eq_of_key hx hr hxk hk)).symm⟩

theorem get?_modify {t : Table κ ρ} {k' : κ} :
    (t.modify k f hf).get? k' = (t.get? k').map fun r => if k ∈ keys r then f r else r := by
  have hkeys : ∀ x : ρ, keys (if k ∈ keys x then f x else x) = keys x := by
    intro x
    split
    · exact hf x ‹_›
    · rfl
  refine Option.ext fun x => ?_
  simp only [get?_eq_some_iff, mem_modify, Option.map_eq_some_iff]
  constructor
  · rintro ⟨⟨r, hr, rfl⟩, hk⟩
    exact ⟨r, ⟨hr, by rwa [hkeys] at hk⟩, rfl⟩
  · rintro ⟨r, ⟨hr, hk⟩, rfl⟩
    exact ⟨⟨r, hr, rfl⟩, by rwa [hkeys]⟩

/-- The rewritten row itself. -/
theorem get?_modify_self {t : Table κ ρ} :
    (t.modify k f hf).get? k = (t.get? k).map f := by
  rw [get?_modify]
  rcases h : t.get? k with _ | r
  · rfl
  · simp only [Option.map_some, if_pos (get?_eq_some_iff.mp h).2]

/-- A row that lacks the key `k` is not rewritten. -/
theorem get?_modify_of_notMem {t : Table κ ρ} {k' : κ} {r : ρ} (h : t.get? k' = some r)
    (hk : k ∉ keys r) : (t.modify k f hf).get? k' = some r := by
  rw [get?_modify, h, Option.map_some, if_neg hk]

/-- A selection that does not look at what is rewritten. -/
theorem filter_modify {t : Table κ ρ} {p : ρ → Bool} (hp : ∀ r, k ∈ keys r → p (f r) = p r) :
    (t.modify k f hf).rows.filter p =
      (t.rows.filter p).map fun r => if k ∈ keys r then f r else r := by
  unfold modify
  rw [List.filter_map]
  congr 1
  refine List.filter_congr fun r _ => ?_
  show p (if k ∈ keys r then f r else r) = p r
  split
  · exact hp r ‹_›
  · rfl

/-- A selection that leaves the rewritten row out. -/
theorem filter_modify_of_notMem {t : Table κ ρ} {p : ρ → Bool}
    (hp : ∀ r, k ∈ keys r → p (f r) = p r) (hk : ∀ r ∈ t, p r = true → k ∉ keys r) :
    (t.modify k f hf).rows.filter p = t.rows.filter p := by
  rw [filter_modify hp]
  refine (List.map_congr_left fun r hr => ?_).trans (List.map_id _)
  obtain ⟨hr, hpr⟩ := List.mem_filter.mp hr
  exact if_neg (hk r hr hpr)

/-- The number of selected rows after a row was rewritten. -/
theorem countP_modify {t : Table κ ρ} {p : ρ → Bool} :
    (t.modify k f hf).rows.countP p =
      t.rows.countP fun r => p (if k ∈ keys r then f r else r) := by
  unfold modify
  rw [List.countP_map]
  rfl

/-- A rewritten row that is selected no more. -/
theorem countP_modify_lt {t : Table κ ρ} {p : ρ → Bool} {r : ρ} (h : t.get? k = some r)
    (hr : p r = true) (hp : ∀ x, k ∈ keys x → p (f x) = false) :
    (t.modify k f hf).rows.countP p < t.rows.countP p := by
  obtain ⟨hmem, hk⟩ := get?_eq_some_iff.mp h
  rw [countP_modify]
  have hle : ∀ x, p (if k ∈ keys x then f x else x) = true → p x = true := by
    intro x hx
    split at hx
    · rw [hp x ‹_›] at hx
      cases hx
    · exact hx
  obtain ⟨before, after, hrows⟩ := List.append_of_mem hmem
  rw [hrows, List.countP_append, List.countP_append, List.countP_cons_of_pos hr,
    List.countP_cons_of_neg (by rw [if_pos hk, hp r hk]; exact Bool.false_ne_true)]
  have hbefore := List.countP_mono_left (l := before) fun x _ => hle x
  have hafter := List.countP_mono_left (l := after) fun x _ => hle x
  omega

/-- A rewritten row that is selected as before. -/
theorem countP_modify_of_eq {t : Table κ ρ} {p : ρ → Bool}
    (hp : ∀ x, k ∈ keys x → p (f x) = p x) :
    (t.modify k f hf).rows.countP p = t.rows.countP p := by
  rw [countP_modify]
  refine List.countP_congr fun x _ => ?_
  split
  · rw [hp x ‹_›]
  · rfl

/-- An update that changes nothing. -/
theorem modify_id {t : Table κ ρ} {hf : ∀ r : ρ, k ∈ keys r → keys (id r) = keys r} :
    t.modify k id hf = t := by
  unfold modify
  congr 1
  refine (List.map_congr_left fun r _ => ?_).trans (List.map_id _)
  exact ite_self _

@[simp] theorem get?_modify_eq_none {t : Table κ ρ} {k' : κ} :
    (t.modify k f hf).get? k' = none ↔ t.get? k' = none := by
  rw [get?_modify, Option.map_eq_none_iff]

/-- Delete the row with key `k`. -/
def delete (t : Table κ ρ) (k : κ) : Table κ ρ :=
  ⟨t.rows.filter fun r => k ∉ keys r, t.unique.filter _⟩

theorem mem_delete {t : Table κ ρ} {k : κ} {x : ρ} : x ∈ t.delete k ↔ x ∈ t ∧ k ∉ keys x := by
  simp [mem_def, delete]

@[simp] theorem get?_delete_self {t : Table κ ρ} {k : κ} : (t.delete k).get? k = none := by
  rw [get?_eq_none_iff]
  exact fun r hr => (mem_delete.mp hr).2

/-- A row that lacks the key of the deleted one is still found. -/
theorem get?_delete_of_notMem {t : Table κ ρ} {k k' : κ} (h : ∀ r ∈ t, k' ∈ keys r → k ∉ keys r) :
    (t.delete k).get? k' = t.get? k' := by
  refine Option.ext fun x => ?_
  rw [get?_eq_some_iff, get?_eq_some_iff, mem_delete]
  exact ⟨fun ⟨⟨hx, _⟩, hk⟩ => ⟨hx, hk⟩, fun ⟨hx, hk⟩ => ⟨⟨hx, h x hx hk⟩, hk⟩⟩

/-! ### The row of greatest rank -/

/-- The selected row of greatest rank: `ORDER BY rank DESC LIMIT 1`. -/
def latest (t : Table κ ρ) (p : ρ → Bool) (rank : ρ → ℕ) : Option ρ :=
  (t.rows.filter p).argmax rank

variable {t : Table κ ρ} {p : ρ → Bool} {rank : ρ → ℕ} {r x : ρ}

omit [DecidableEq κ] in
theorem latest_spec (h : t.latest p rank = some x) :
    x ∈ t ∧ p x = true ∧ ∀ y ∈ t, p y = true → rank y ≤ rank x := by
  have hx := List.mem_filter.mp (List.argmax_mem h)
  exact ⟨hx.1, hx.2, fun y hy hp => List.le_of_mem_argmax (List.mem_filter.mpr ⟨hy, hp⟩) h⟩

omit [DecidableEq κ] in
theorem latest_eq_none : t.latest p rank = none ↔ ∀ y ∈ t, p y = false := by
  simp only [latest, List.argmax_eq_none, List.filter_eq_nil_iff, Bool.not_eq_true, mem_def]

/-- A row of greater rank than all selected rows becomes the latest. -/
theorem latest_add_of_lt (h : t.Free r) (hp : p r = true)
    (hlt : ∀ y, t.latest p rank = some y → rank y < rank r) :
    (t.add r).latest p rank = some r := by
  unfold latest
  rw [rows_add h, List.filter_append, List.filter_cons_of_pos hp, List.filter_nil,
    List.argmax_concat]
  rcases hl : (t.rows.filter p).argmax rank with _ | y
  · rfl
  · simp only [if_pos (hlt y hl)]

/-- A row that is not selected changes nothing. -/
theorem latest_add_of_not (hp : p r = false) : (t.add r).latest p rank = t.latest p rank := by
  rw [latest, latest, filter_add_of_neg hp]

end Table

end Transact
