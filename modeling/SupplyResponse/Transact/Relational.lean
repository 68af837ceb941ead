/-
Relational databases with primary and foreign keys.

A row has nullable cells, and a record that no key refers to.

* `Schema.Holds` — NULL only where it is allowed, primary keys unique, and every
  row whose foreign key is set refers to a row;
* `insert`, `delete`, `nullify` — a row is added; the rows of a table that meet a
  condition are deleted, or one of their cells becomes NULL;
* `Admits`, `Unreferenced` — the checks of the keys before these statements, with
  what they are for: the keys still hold afterwards;
* `BelongsTo`, `Lineage` — the row has an owner, or refers to a row that has it,
  and no row belongs to two owners;
* `purge` — the owned rows of some of the tables are gone.  Where the children of
  a table went first, its owned rows are unreferenced.
-/
import Mathlib.Logic.Function.Basic
import Mathlib.Tactic.Common

namespace Transact

/-- A row with cells of type `ν` in the columns `γ`. -/
structure Row (γ ν ρ : Type) where
  cell : γ → Option ν
  record : ρ

/-- The rows of every table. -/
abbrev Database (τ γ ν ρ : Type) := τ → List (Row γ ν ρ)

/-- Columns of a table, each with the column of the parent table it refers to. -/
structure ForeignKey (τ γ : Type) where
  child : τ
  columns : List (γ × γ)
  parent : τ
  deriving DecidableEq

/-- What a database enforces. -/
structure Schema (τ γ : Type) where
  columns : τ → List γ
  nullable : τ → List γ
  primaryKey : τ → List γ
  foreignKeys : List (ForeignKey τ γ)

section Keys

variable {τ γ ν ρ : Type}

/-- The rows have the same values in the columns. -/
def Row.Agree (columns : List γ) (r r' : Row γ ν ρ) : Prop :=
  ∀ c ∈ columns, r.cell c = r'.cell c

instance [DecidableEq ν] (columns : List γ) (r r' : Row γ ν ρ) : Decidable (r.Agree columns r') :=
  inferInstanceAs (Decidable (∀ c ∈ columns, _))

theorem Row.Agree.symm {columns : List γ} {r r' : Row γ ν ρ} (h : r.Agree columns r') :
    r'.Agree columns r :=
  fun c hc => (h c hc).symm

namespace ForeignKey

/-- No cell of the key is NULL, and all are those of the parent row. -/
def Refers (fk : ForeignKey τ γ) (row parent : Row γ ν ρ) : Prop :=
  ∀ c ∈ fk.columns, row.cell c.1 ≠ none ∧ row.cell c.1 = parent.cell c.2

instance [DecidableEq ν] (fk : ForeignKey τ γ) (row parent : Row γ ν ρ) :
    Decidable (fk.Refers row parent) :=
  inferInstanceAs (Decidable (∀ c ∈ fk.columns, _ ∧ _))

/-- No cell of the key is NULL. -/
def Set (fk : ForeignKey τ γ) (row : Row γ ν ρ) : Prop :=
  ∀ c ∈ fk.columns, row.cell c.1 ≠ none

instance [DecidableEq ν] (fk : ForeignKey τ γ) (row : Row γ ν ρ) : Decidable (fk.Set row) :=
  inferInstanceAs (Decidable (∀ c ∈ fk.columns, _))

/-- Every row whose key is set refers to a row of the parent table. -/
def Holds (fk : ForeignKey τ γ) (db : Database τ γ ν ρ) : Prop :=
  ∀ row ∈ db fk.child, fk.Set row → ∃ parent ∈ db fk.parent, fk.Refers row parent

instance [DecidableEq ν] (fk : ForeignKey τ γ) (db : Database τ γ ν ρ) : Decidable (fk.Holds db) :=
  inferInstanceAs (Decidable (∀ row ∈ db fk.child, _ → ∃ parent ∈ db fk.parent, _))

/-- Two rows that one row refers to agree on the columns it refers to. -/
theorem Refers.agree {fk : ForeignKey τ γ} {row parent parent' : Row γ ν ρ}
    (h : fk.Refers row parent) (h' : fk.Refers row parent') :
    parent.Agree (fk.columns.map Prod.snd) parent' := by
  intro c hc
  obtain ⟨k, hk, rfl⟩ := List.mem_map.mp hc
  rw [← (h k hk).2, (h' k hk).2]

theorem Refers.set {fk : ForeignKey τ γ} {row parent : Row γ ν ρ} (h : fk.Refers row parent) :
    fk.Set row :=
  fun c hc => (h c hc).1

end ForeignKey

/-- The rows of a table: cells in its columns only, NULL where it is allowed. -/
def Schema.Shaped (schema : Schema τ γ) (t : τ) (row : Row γ ν ρ) : Prop :=
  (∀ c ∈ schema.columns t, c ∉ schema.nullable t → row.cell c ≠ none) ∧
    ∀ c, row.cell c ≠ none → c ∈ schema.columns t

structure Schema.Holds (schema : Schema τ γ) (db : Database τ γ ν ρ) : Prop where
  shaped : ∀ t, ∀ row ∈ db t, schema.Shaped t row
  unique : ∀ t, (db t).Pairwise fun r r' => ¬r.Agree (schema.primaryKey t) r'
  refers : ∀ fk ∈ schema.foreignKeys, fk.Holds db

/-- The row has the owner in its owner column, or refers to a row that has it. -/
inductive BelongsTo (fks : List (ForeignKey τ γ)) (owner : γ) (db : Database τ γ ν ρ) :
    τ → Row γ ν ρ → ν → Prop
  | own {t : τ} {row : Row γ ν ρ} {v : ν} (h : row.cell owner = some v) :
    BelongsTo fks owner db t row v
  | parent {fk : ForeignKey τ γ} {row parent : Row γ ν ρ} {v : ν} (hfk : fk ∈ fks)
    (hparent : parent ∈ db fk.parent) (hrefers : fk.Refers row parent)
    (h : BelongsTo fks owner db fk.parent parent v) : BelongsTo fks owner db fk.child row v

/-- No row belongs to two owners. -/
def Lineage (fks : List (ForeignKey τ γ)) (owner : γ) (db : Database τ γ ν ρ) : Prop :=
  ∀ t, ∀ row ∈ db t, ∀ v v', BelongsTo fks owner db t row v → BelongsTo fks owner db t row v' → v = v'

variable {fks : List (ForeignKey τ γ)} {owner : γ} {db : Database τ γ ν ρ}

theorem belongsTo_cases {t : τ} {row : Row γ ν ρ} {v : ν} (h : BelongsTo fks owner db t row v) :
    row.cell owner = some v ∨ ∃ fk ∈ fks, fk.child = t ∧ ∃ parent ∈ db fk.parent,
      fk.Refers row parent ∧ BelongsTo fks owner db fk.parent parent v := by
  cases h with
  | own h => exact .inl h
  | parent hfk hparent hrefers h => exact .inr ⟨_, hfk, rfl, _, hparent, hrefers, h⟩

/-- An owner of every row that follows the columns and the keys is its only one. -/
theorem Lineage.of_owner (f : τ → Row γ ν ρ → Option ν)
    (hown : ∀ t, ∀ row ∈ db t, ∀ v, row.cell owner = some v → f t row = some v)
    (hparent : ∀ fk ∈ fks, ∀ row ∈ db fk.child, ∀ parent ∈ db fk.parent, fk.Refers row parent →
      f fk.child row = f fk.parent parent) : Lineage fks owner db := by
  have key : ∀ t row v, BelongsTo fks owner db t row v → row ∈ db t → f t row = some v := by
    intro t row v h
    induction h with
    | own h => exact fun hrow => hown _ _ hrow _ h
    | parent hfk hmem hrefers _ ih =>
      intro hrow
      rw [hparent _ hfk _ hrow _ hmem hrefers]
      exact ih hmem
  intro t row hrow v v' h h'
  have hv := key t row v h hrow
  have hv' := key t row v' h' hrow
  exact Option.some.inj (hv.symm.trans hv')

end Keys

/-! ### Inserting -/

section Insert

variable {τ γ ν ρ : Type} [DecidableEq τ] {schema : Schema τ γ} {owner : γ}
  {db : Database τ γ ν ρ} {t : τ} {r : Row γ ν ρ}

/-- `INSERT INTO t`. -/
def Database.insert (db : Database τ γ ν ρ) (t : τ) (r : Row γ ν ρ) : Database τ γ ν ρ :=
  Function.update db t (db t ++ [r])

/-- The primary key of the row is free, and its foreign keys refer to rows. -/
def Admits (schema : Schema τ γ) (db : Database τ γ ν ρ) (t : τ) (r : Row γ ν ρ) : Prop :=
  (∀ row ∈ db t, ¬row.Agree (schema.primaryKey t) r) ∧
    ∀ fk ∈ schema.foreignKeys, fk.child = t → fk.Set r → ∃ parent ∈ db fk.parent, fk.Refers r parent

instance [DecidableEq ν] : Decidable (Admits schema db t r) :=
  inferInstanceAs (Decidable ((∀ row ∈ db t, _) ∧ ∀ fk ∈ schema.foreignKeys, fk.child = t →
    fk.Set r → ∃ parent ∈ db fk.parent, _))

@[simp] theorem insert_self : db.insert t r t = db t ++ [r] := Function.update_self ..

theorem insert_of_ne {t' : τ} (h : t' ≠ t) : db.insert t r t' = db t' := Function.update_of_ne h ..

theorem mem_insert {t' : τ} {row : Row γ ν ρ} :
    row ∈ db.insert t r t' ↔ row ∈ db t' ∨ t' = t ∧ row = r := by
  by_cases h : t' = t
  · subst h
    simp
  · simp [insert_of_ne h, h]

/-- An admitted row of the table's shape keeps what the database enforces. -/
theorem Schema.Holds.insert (h : schema.Holds db) (hshape : schema.Shaped t r)
    (hadmits : Admits schema db t r) : schema.Holds (db.insert t r) where
  shaped := by
    intro t' row hrow
    rcases mem_insert.mp hrow with hrow | ⟨rfl, rfl⟩
    · exact h.shaped t' row hrow
    · exact hshape
  unique := by
    intro t'
    by_cases ht : t' = t
    · subst ht
      rw [insert_self]
      refine List.pairwise_append.mpr ⟨h.unique t', List.pairwise_singleton _ _, ?_⟩
      intro row hrow r' hr'
      obtain rfl := List.mem_singleton.mp hr'
      exact hadmits.1 row hrow
    · rw [insert_of_ne ht]
      exact h.unique t'
  refers := by
    intro fk hfk row hrow hset
    have hold : ∃ parent ∈ db fk.parent, fk.Refers row parent := by
      rcases mem_insert.mp hrow with hrow | ⟨hchild, rfl⟩
      · exact h.refers fk hfk row hrow hset
      · exact hadmits.2 fk hfk hchild hset
    obtain ⟨parent, hparent, hrefers⟩ := hold
    exact ⟨parent, mem_insert.mpr (.inl hparent), hrefers⟩

omit [DecidableEq τ] in
/-- Keys name primary keys, so that the rows that are there refer to no row with
a free one. -/
theorem Schema.Holds.not_refers_new (h : schema.Holds db) (hadmits : Admits schema db t r)
    (hkeys : ∀ fk ∈ schema.foreignKeys, fk.columns.map Prod.snd = schema.primaryKey fk.parent)
    {fk : ForeignKey τ γ} (hfk : fk ∈ schema.foreignKeys) (hparent : fk.parent = t)
    {row : Row γ ν ρ} (hrow : row ∈ db fk.child) : ¬fk.Refers row r := by
  intro hrefers
  obtain ⟨parent, hmem, hold⟩ := h.refers fk hfk row hrow hrefers.set
  have hagree := hold.agree hrefers
  rw [hkeys fk hfk, hparent] at hagree
  subst hparent
  exact hadmits.1 parent hmem hagree

/-- The rows that were there belong to whom they belonged to before. -/
theorem Schema.Holds.belongsTo_insert (h : schema.Holds db) (hadmits : Admits schema db t r)
    (hkeys : ∀ fk ∈ schema.foreignKeys, fk.columns.map Prod.snd = schema.primaryKey fk.parent)
    {t' : τ} {row : Row γ ν ρ} {v : ν} (hrow : row ∈ db t') :
    BelongsTo schema.foreignKeys owner (db.insert t r) t' row v ↔
      BelongsTo schema.foreignKeys owner db t' row v := by
  constructor
  · intro hb
    induction hb with
    | own hv => exact .own hv
    | parent hfk hparent hrefers _ ih =>
      rcases mem_insert.mp hparent with hold | ⟨ht, rfl⟩
      · exact .parent hfk hold hrefers (ih hold)
      · exact absurd hrefers (h.not_refers_new hadmits hkeys hfk ht hrow)
  · intro hb
    induction hb with
    | own hv => exact .own hv
    | parent hfk hparent hrefers _ ih =>
      exact .parent hfk (mem_insert.mpr (.inl hparent)) hrefers (ih hparent)

/-- A row whose parents belong to its owner keeps the lineage. -/
theorem Lineage.insert (hl : Lineage schema.foreignKeys owner db) (h : schema.Holds db)
    (hadmits : Admits schema db t r)
    (hkeys : ∀ fk ∈ schema.foreignKeys, fk.columns.map Prod.snd = schema.primaryKey fk.parent)
    {v : ν} (hnew : ∀ v', BelongsTo schema.foreignKeys owner (db.insert t r) t r v' → v' = v) :
    Lineage schema.foreignKeys owner (db.insert t r) := by
  intro t' row hrow v₁ v₂ h₁ h₂
  rcases mem_insert.mp hrow with hold | ⟨rfl, rfl⟩
  · rw [h.belongsTo_insert hadmits hkeys hold] at h₁ h₂
    exact hl t' row hold v₁ v₂ h₁ h₂
  · rw [hnew v₁ h₁, hnew v₂ h₂]

end Insert

/-! ### Deleting -/

section Delete

variable {τ γ ν ρ : Type} [DecidableEq τ] {schema : Schema τ γ} {fks : List (ForeignKey τ γ)}
  {db : Database τ γ ν ρ} {t : τ}

/-- `DELETE FROM t WHERE p`. -/
def Database.delete (db : Database τ γ ν ρ) (t : τ) (p : Row γ ν ρ → Bool) : Database τ γ ν ρ :=
  Function.update db t ((db t).filter fun row => !p row)

/-- No row refers to a row of the table that meets the condition, not even one
of those: they may be deleted in any order. -/
def Unreferenced (fks : List (ForeignKey τ γ)) (db : Database τ γ ν ρ) (t : τ)
    (p : Row γ ν ρ → Bool) : Prop :=
  ∀ fk ∈ fks, fk.parent = t → ∀ row ∈ db fk.child, ∀ parent ∈ db t, p parent → ¬fk.Refers row parent

instance [DecidableEq ν] (p : Row γ ν ρ → Bool) : Decidable (Unreferenced fks db t p) :=
  inferInstanceAs (Decidable (∀ fk ∈ fks, fk.parent = t → ∀ row ∈ db fk.child,
    ∀ parent ∈ db t, p parent → ¬_))

@[simp] theorem delete_self {p : Row γ ν ρ → Bool} :
    db.delete t p t = (db t).filter fun row => !p row := Function.update_self ..

theorem delete_of_ne {t' : τ} {p : Row γ ν ρ → Bool} (h : t' ≠ t) : db.delete t p t' = db t' :=
  Function.update_of_ne h ..

theorem delete_sublist (t' : τ) {p : Row γ ν ρ → Bool} :
    (db.delete t p t').Sublist (db t') := by
  by_cases ht : t' = t
  · subst ht
    rw [delete_self]
    exact List.filter_sublist
  · exact (delete_of_ne ht : db.delete t p t' = db t') ▸ List.Sublist.refl _

/-- Rows that nothing refers to are deleted without harm to the keys. -/
theorem Schema.Holds.delete {p : Row γ ν ρ → Bool} (h : schema.Holds db)
    (hfree : Unreferenced schema.foreignKeys db t p) : schema.Holds (db.delete t p) where
  shaped := fun t' row hrow => h.shaped t' row ((delete_sublist t').subset hrow)
  unique := fun t' => (h.unique t').sublist (delete_sublist t')
  refers := by
    intro fk hfk row hrow hset
    have hold := (delete_sublist _).subset hrow
    obtain ⟨parent, hparent, hrefers⟩ := h.refers fk hfk row hold hset
    refine ⟨parent, ?_, hrefers⟩
    by_cases ht : fk.parent = t
    · subst ht
      have hnot : p parent = false :=
        Bool.eq_false_iff.mpr fun hp => hfree fk hfk rfl row hold parent hparent hp hrefers
      rw [delete_self]
      exact List.mem_filter.mpr ⟨hparent, by rw [hnot]; rfl⟩
    · rwa [delete_of_ne ht]

end Delete

/-! ### Cells that become NULL -/

section Nullify

variable {τ γ ν ρ : Type} [DecidableEq τ] [DecidableEq γ] {schema : Schema τ γ}
  {db : Database τ γ ν ρ} {t : τ} {c c' : γ} {p : Row γ ν ρ → Bool} {row : Row γ ν ρ} {b : Bool}

/-- The row, with NULL in a column if `b`. -/
def Row.nullifyIf (row : Row γ ν ρ) (b : Bool) (c : γ) : Row γ ν ρ :=
  if b then { row with cell := Function.update row.cell c none } else row

/-- `UPDATE t SET c = NULL WHERE p`. -/
def Database.nullify (db : Database τ γ ν ρ) (t : τ) (c : γ) (p : Row γ ν ρ → Bool) :
    Database τ γ ν ρ :=
  fun t' => (db t').map fun row => row.nullifyIf (decide (t' = t) && p row) c

@[simp] theorem nullifyIf_false : row.nullifyIf false c = row := rfl

@[simp] theorem nullifyIf_true_cell : (row.nullifyIf true c).cell c = none :=
  Function.update_self ..

theorem nullifyIf_cell_of_ne (h : b = true → c' ≠ c) :
    (row.nullifyIf b c).cell c' = row.cell c' := by
  cases b with
  | false => rfl
  | true => exact Function.update_of_ne (h rfl) ..

/-- A cell that is set was not touched. -/
theorem nullifyIf_cell_of_set (h : (row.nullifyIf b c).cell c' ≠ none) :
    (row.nullifyIf b c).cell c' = row.cell c' := by
  refine nullifyIf_cell_of_ne fun hb hc => h ?_
  subst hb hc
  exact nullifyIf_true_cell

theorem nullify_of_ne {t' : τ} (h : t' ≠ t) : db.nullify t c p t' = db t' := by
  simp [Database.nullify, h]

/-- A condition that the update leaves true deletes what it deleted before. -/
theorem delete_nullify (hp : ∀ row b, p (row.nullifyIf b c) = p row) :
    (db.nullify t c p).delete t p = db.delete t p := by
  funext t'
  by_cases ht : t' = t
  · subst ht
    rw [delete_self, delete_self, Database.nullify, List.filter_map]
    have hcond : ((fun row => !p row) ∘ fun row => row.nullifyIf (decide (t' = t') && p row) c) =
        fun row => !p row :=
      funext fun row => congrArg (!·) (hp row _)
    rw [hcond]
    refine (List.map_congr_left fun row hrow => ?_).trans (List.map_id _)
    have hnot : p row = false := by simpa using (List.mem_filter.mp hrow).2
    rw [hnot, Bool.and_false, nullifyIf_false]
    rfl
  · rw [delete_of_ne ht, delete_of_ne ht, nullify_of_ne ht]

/-- An optional cell outside the keys that rows refer to may become NULL. -/
theorem Schema.Holds.nullify (h : schema.Holds db) (hnull : c ∈ schema.nullable t)
    (hprimary : c ∉ schema.primaryKey t)
    (hparent : ∀ fk ∈ schema.foreignKeys, fk.parent = t → ∀ k ∈ fk.columns, k.2 ≠ c) :
    schema.Holds (db.nullify t c p) where
  shaped := by
    intro t' row hrow
    obtain ⟨old, hold, rfl⟩ := List.mem_map.mp hrow
    refine ⟨fun c' hc hn => ?_, fun c' hset => ?_⟩
    · rw [nullifyIf_cell_of_ne]
      · exact (h.shaped t' old hold).1 c' hc hn
      · rintro hb rfl
        obtain ⟨ht, -⟩ := Bool.and_eq_true_iff.mp hb
        obtain rfl := of_decide_eq_true ht
        exact hn hnull
    · rw [nullifyIf_cell_of_set hset] at hset
      exact (h.shaped t' old hold).2 c' hset
  unique := by
    intro t'
    refine List.pairwise_map.mpr ((h.unique t').imp fun hne hagree => hne fun c' hc => ?_)
    have hkeep : ∀ row : Row γ ν ρ, (decide (t' = t) && p row) = true → c' ≠ c := by
      rintro row hb rfl
      obtain ⟨ht, -⟩ := Bool.and_eq_true_iff.mp hb
      obtain rfl := of_decide_eq_true ht
      exact hprimary hc
    have hcell := hagree c' hc
    rwa [nullifyIf_cell_of_ne (hkeep _), nullifyIf_cell_of_ne (hkeep _)] at hcell
  refers := by
    intro fk hfk row hrow hset
    obtain ⟨old, hold, rfl⟩ := List.mem_map.mp hrow
    have hcells := fun k hk => nullifyIf_cell_of_set (hset k hk)
    obtain ⟨parent, hmem, hrefers⟩ := h.refers fk hfk old hold fun k hk => hcells k hk ▸ hset k hk
    refine ⟨_, List.mem_map.mpr ⟨parent, hmem, rfl⟩, fun k hk => ⟨hset k hk, ?_⟩⟩
    rw [hcells k hk, (hrefers k hk).2, nullifyIf_cell_of_ne]
    intro hb
    obtain ⟨ht, -⟩ := Bool.and_eq_true_iff.mp hb
    exact hparent fk hfk (of_decide_eq_true ht) k hk

end Nullify

/-! ### Purging what an owner has -/

section Purge

variable {τ γ ν ρ : Type} [DecidableEq τ] {fks : List (ForeignKey τ γ)} {owner : γ}
  {db : Database τ γ ν ρ} {owned : τ → Row γ ν ρ → Bool} {gone : List τ} {t : τ}

/-- The owned rows of the tables `gone` are deleted. -/
def Database.purge (db : Database τ γ ν ρ) (owned : τ → Row γ ν ρ → Bool) (gone : List τ) :
    Database τ γ ν ρ :=
  fun t => if t ∈ gone then (db t).filter fun row => !owned t row else db t

/-- A row that refers to an owned row is owned. -/
def Closed (fks : List (ForeignKey τ γ)) (db : Database τ γ ν ρ) (owned : τ → Row γ ν ρ → Bool) :
    Prop :=
  ∀ fk ∈ fks, ∀ row ∈ db fk.child, ∀ parent ∈ db fk.parent, fk.Refers row parent →
    owned fk.parent parent = true → owned fk.child row = true

omit [DecidableEq τ] in
/-- The rows of some owners are closed under reference. -/
theorem closed_of_belongsTo {owners : List ν}
    (h : ∀ t, ∀ row ∈ db t, owned t row = true ↔ ∃ v ∈ owners, BelongsTo fks owner db t row v) :
    Closed fks db owned := by
  intro fk hfk row hrow parent hparent hrefers hown
  obtain ⟨v, hv, hb⟩ := (h _ _ hparent).mp hown
  exact (h _ _ hrow).mpr ⟨v, hv, .parent hfk hparent hrefers hb⟩

@[simp] theorem purge_nil : db.purge owned [] = db := rfl

theorem purge_of_notMem (h : t ∉ gone) : db.purge owned gone t = db t := if_neg h

theorem purge_of_mem (h : t ∈ gone) :
    db.purge owned gone t = (db t).filter fun row => !owned t row := if_pos h

theorem purge_sublist : (db.purge owned gone t).Sublist (db t) := by
  unfold Database.purge
  split
  · exact List.filter_sublist
  · exact List.Sublist.refl _

/-- The next table. -/
theorem delete_purge {p : Row γ ν ρ → Bool} (ht : t ∉ gone) (hp : ∀ row ∈ db t, p row = owned t row) :
    (db.purge owned gone).delete t p = db.purge owned (t :: gone) := by
  funext t'
  by_cases h : t' = t
  · subst h
    rw [delete_self, purge_of_notMem ht, purge_of_mem (List.mem_cons_self ..)]
    exact List.filter_congr fun row hrow => by rw [hp row hrow]
  · rw [delete_of_ne h]
    simp [Database.purge, h]

/-- Nothing refers to the owned rows of a table whose children went first. -/
theorem unreferenced_purge {p : Row γ ν ρ → Bool} (hclosed : Closed fks db owned)
    (hchildren : ∀ fk ∈ fks, fk.parent = t → fk.child ∈ gone)
    (hp : ∀ row ∈ db t, p row = owned t row) : Unreferenced fks (db.purge owned gone) t p := by
  rintro fk hfk rfl row hrow parent hparent hcond hrefers
  rw [purge_of_mem (hchildren fk hfk rfl)] at hrow
  obtain ⟨hrow, hnot⟩ := List.mem_filter.mp hrow
  have hmem := purge_sublist.subset hparent
  rw [hclosed fk hfk row hrow parent hmem hrefers (hp parent hmem ▸ hcond)] at hnot
  cases hnot

/-- The same for a table that refers to itself, after the cell that does became
NULL in its owned rows. -/
theorem unreferenced_nullify [DecidableEq γ] {c : γ} {p : Row γ ν ρ → Bool}
    (hclosed : Closed fks db owned) (ht : t ∉ gone)
    (hchildren : ∀ fk ∈ fks, fk.parent = t →
      fk.child ∈ gone ∨ fk.child = t ∧ c ∈ fk.columns.map Prod.fst)
    (hp : ∀ row ∈ db t, p row = owned t row) (hkeep : ∀ row b, p (row.nullifyIf b c) = p row)
    (hparent : ∀ fk ∈ fks, fk.parent = t → ∀ k ∈ fk.columns, k.2 ≠ c) :
    Unreferenced fks ((db.purge owned gone).nullify t c p) t p := by
  rintro fk hfk rfl row hrow parent hmem hcond hrefers
  obtain ⟨old, hold, rfl⟩ := List.mem_map.mp hmem
  rw [purge_of_notMem ht] at hold
  rw [hkeep] at hcond
  have hnot : ∀ row ∈ db fk.child, fk.Refers row old → owned fk.child row = true :=
    fun row hrow h => hclosed fk hfk row hrow old hold h (hp old hold ▸ hcond)
  have holdRefers : fk.Refers row old := fun k hk => by
    refine ⟨(hrefers k hk).1, ?_⟩
    rw [(hrefers k hk).2, nullifyIf_cell_of_ne fun _ => hparent fk hfk rfl k hk]
  rcases hchildren fk hfk rfl with hchild | ⟨hself, hc⟩
  · -- the child went first: what is left of it is not owned
    have hne : fk.child ≠ fk.parent := fun h => ht (h ▸ hchild)
    rw [nullify_of_ne hne, purge_of_mem hchild] at hrow
    obtain ⟨hrow, hrest⟩ := List.mem_filter.mp hrow
    rw [hnot row hrow holdRefers] at hrest
    cases hrest
  · -- the table itself: an owned row has NULL in its key by now
    obtain ⟨k, hk, rfl⟩ := List.mem_map.mp hc
    obtain ⟨child, hchild, rfl⟩ := List.mem_map.mp hrow
    rw [hself, purge_of_notMem ht] at hchild
    have hchildRefers : fk.Refers child old := fun k hk => by
      have hset := (holdRefers k hk).1
      rw [← nullifyIf_cell_of_set hset]
      exact holdRefers k hk
    have hown := hnot child (hself ▸ hchild) hchildRefers
    rw [hself] at hown
    refine (holdRefers k hk).1 ?_
    rw [hp child hchild, hown, hself, decide_eq_true rfl]
    exact nullifyIf_true_cell

end Purge

end Transact
