/-
The SQL statements of the repositories.

* `insertInto` — `INSERT`; a taken unique value raises `IntegrityError`;
* `updateRow` — `UPDATE … WHERE`, on the row with a primary key and under a
  condition on its columns; answers whether a row matched;
* `checkAll` — a sequence of checks, each with the exception it raises;
* `mapError` — `except Class as error: raise …`.

Each has the lemma that inverts its successful runs.
-/
import SupplyResponse.Persistence.Store

namespace SupplyResponse

open Transact Transact.Prog
open Keyed (keys)

/-- Raise an exception. -/
def fail {α : Type} (cls : ExceptionClass) (message : String) : Sql α := .raise ⟨cls, message⟩

@[simp] theorem returns_fail {α : Type} {cls : ExceptionClass} {message : String} {s s' : Store}
    {a : α} : ¬(fail cls message : Sql α).Returns s a s' :=
  returns_raise

@[simp] theorem readOnly_fail {α : Type} (cls : ExceptionClass) (message : String) :
    (fail cls message : Sql α).ReadOnly :=
  readOnly_raise _

/-! ### Insert and update -/

variable {ρ : Type} [Keyed Key ρ]

/-- `INSERT`: the row is added to `table`, or `IntegrityError` is raised. -/
def insertInto (table : Store → Table Key ρ) (setTable : Store → Table Key ρ → Store) (r : ρ) :
    Sql Unit := do
  let inserted ← write fun s =>
    if (table s).Free r then some (keys r, fun s => setTable s ((table s).add r)) else none
  require inserted ⟨.integrityError, "UNIQUE constraint failed"⟩

theorem returns_insertInto {table : Store → Table Key ρ}
    {setTable : Store → Table Key ρ → Store} {r : ρ} {s s' : Store} {u : Unit} :
    (insertInto table setTable r).Returns s u s' ↔
      (table s).Free r ∧ s' = setTable s ((table s).add r) := by
  unfold insertInto
  simp only [returns_bind, returns_write, returns_require]
  by_cases h : (table s).Free r
  · simp [h]
  · simp [h]

/-- `UPDATE … WHERE`: the row with key `k` is rewritten by `f` if it satisfies
`cond`; the row is locked under all its keys. -/
def updateRow (table : Store → Table Key ρ) (setTable : Store → Table Key ρ → Store) (k : Key)
    (cond : ρ → Prop) [DecidablePred cond] (f : ρ → ρ)
    (hf : ∀ r, k ∈ keys r → keys (f r) = keys r) : Sql Bool :=
  write fun s =>
    ((table s).get? k).bind fun r =>
      if cond r then some (keys r, fun s => setTable s ((table s).modify k f hf)) else none

theorem returns_updateRow {table : Store → Table Key ρ}
    {setTable : Store → Table Key ρ → Store} {k : Key} {cond : ρ → Prop} [DecidablePred cond]
    {f : ρ → ρ} {hf : ∀ r, k ∈ keys r → keys (f r) = keys r} {s s' : Store} {b : Bool} :
    (updateRow table setTable k cond f hf).Returns s b s' ↔
      (∃ r, (table s).get? k = some r ∧ cond r ∧ b = true ∧
          s' = setTable s ((table s).modify k f hf)) ∨
        ((∀ r, (table s).get? k = some r → ¬cond r) ∧ b = false ∧ s' = s) := by
  unfold updateRow
  rw [returns_write]
  rcases h : (table s).get? k with _ | r
  · simp
  · by_cases hc : cond r
    · simp [hc]
    · simp [hc]

/-- `UPDATE … WHERE` by primary key alone, where a missing row is an error. -/
def updateExisting (table : Store → Table Key ρ) (setTable : Store → Table Key ρ → Store)
    (k : Key) (f : ρ → ρ) (hf : ∀ r, k ∈ keys r → keys (f r) = keys r) (missing : Raised) :
    Sql Unit := do
  let matched ← updateRow table setTable k (fun _ => True) f hf
  require matched missing

theorem returns_updateExisting {table : Store → Table Key ρ}
    {setTable : Store → Table Key ρ → Store} {k : Key} {f : ρ → ρ}
    {hf : ∀ r, k ∈ keys r → keys (f r) = keys r} {missing : Raised} {s s' : Store} {u : Unit} :
    (updateExisting table setTable k f hf missing).Returns s u s' ↔
      (∃ r, (table s).get? k = some r) ∧ s' = setTable s ((table s).modify k f hf) := by
  unfold updateExisting
  simp only [returns_bind, returns_updateRow, returns_require]
  constructor
  · rintro ⟨b, s₁, ⟨r, hr, -, rfl, rfl⟩ | ⟨-, rfl, rfl⟩, hb, rfl⟩
    · exact ⟨⟨r, hr⟩, rfl⟩
    · simp at hb
  · rintro ⟨⟨r, hr⟩, rfl⟩
    exact ⟨true, _, .inl ⟨r, hr, trivial, rfl, rfl⟩, rfl, rfl⟩

/-! What the statements write. -/

variable {P : Store → List Key → (Store → Store) → Prop}

theorem writes_insertInto {table : Store → Table Key ρ}
    {setTable : Store → Table Key ρ → Store} {r : ρ} (hP : ∀ v, P v [] id)
    (h : ∀ v, (table v).Free r → P v (keys r) fun s => setTable s ((table s).add r)) :
    (insertInto table setTable r).Writes P := by
  refine (writes_write hP fun v l u hf => ?_).bind fun _ => writes_require _ _
  split at hf
  · obtain ⟨rfl, rfl⟩ := Prod.mk.inj (Option.some.inj hf)
    exact h v ‹_›
  · cases hf

theorem writes_updateRow {table : Store → Table Key ρ}
    {setTable : Store → Table Key ρ → Store} {k : Key} {cond : ρ → Prop} [DecidablePred cond]
    {f : ρ → ρ} {hf : ∀ r, k ∈ keys r → keys (f r) = keys r} (hP : ∀ v, P v [] id)
    (h : ∀ v r, (table v).get? k = some r → cond r →
      P v (keys r) fun s => setTable s ((table s).modify k f hf)) :
    (updateRow table setTable k cond f hf).Writes P := by
  refine writes_write hP fun v l u hw => ?_
  obtain ⟨r, hr, hw⟩ := Option.bind_eq_some_iff.mp hw
  split at hw
  · obtain ⟨rfl, rfl⟩ := Prod.mk.inj (Option.some.inj hw)
    exact h v r hr ‹_›
  · cases hw

theorem writes_updateExisting {table : Store → Table Key ρ}
    {setTable : Store → Table Key ρ → Store} {k : Key} {f : ρ → ρ}
    {hf : ∀ r, k ∈ keys r → keys (f r) = keys r} {missing : Raised} (hP : ∀ v, P v [] id)
    (h : ∀ v r, (table v).get? k = some r →
      P v (keys r) fun s => setTable s ((table s).modify k f hf)) :
    (updateExisting table setTable k f hf missing).Writes P :=
  (writes_updateRow hP fun v r hr _ => h v r hr).bind fun _ => writes_require _ _

/-- The row with a primary key, or an exception. -/
def getRow (table : Store → Table Key ρ) (k : Key) (missing : Raised) : Sql ρ := do
  let row ← select fun s => (table s).get? k
  orRaise missing row

@[simp] theorem returns_getRow {table : Store → Table Key ρ} {k : Key} {missing : Raised}
    {s s' : Store} {r : ρ} :
    (getRow table k missing).Returns s r s' ↔ (table s).get? k = some r ∧ s' = s := by
  unfold getRow
  simp only [returns_bind, returns_select, returns_orRaise]
  constructor
  · rintro ⟨o, s₁, ⟨rfl, rfl⟩, h, rfl⟩
    exact ⟨h, rfl⟩
  · rintro ⟨h, rfl⟩
    exact ⟨_, _, ⟨rfl, rfl⟩, h, rfl⟩

@[simp] theorem readOnly_getRow (table : Store → Table Key ρ) (k : Key) (missing : Raised) :
    (getRow table k missing).ReadOnly :=
  (readOnly_select _).bind fun row => readOnly_orRaise missing row

@[simp] theorem returns_getRow_bind {table : Store → Table Key ρ} {k : Key} {missing : Raised}
    {α : Type} {f : ρ → Sql α} {s s' : Store} {a : α} :
    (getRow table k missing >>= f).Returns s a s' ↔
      ∃ r, (table s).get? k = some r ∧ (f r).Returns s a s' := by
  rw [(readOnly_getRow table k missing).returns_bind]
  simp

/-! ### Checks and handlers -/

/-- The exception of the first check that does not hold. -/
def firstError : List (Bool × Raised) → Option Raised
  | [] => none
  | (ok, e) :: rest => if ok then firstError rest else some e

theorem firstError_eq_none {checks : List (Bool × Raised)} :
    firstError checks = none ↔ ∀ c ∈ checks, c.1 = true := by
  induction checks with
  | nil => simp [firstError]
  | cons c rest ih =>
    obtain ⟨ok, e⟩ := c
    cases ok with
    | true => simp [firstError, ih]
    | false => simp [firstError]

/-- Run the checks in order. -/
def checkAll (checks : List (Bool × Raised)) : Sql Unit :=
  match firstError checks with
  | none => .done ()
  | some e => .raise e

@[simp] theorem returns_checkAll {checks : List (Bool × Raised)} {s s' : Store} {u : Unit} :
    (checkAll checks).Returns s u s' ↔ (∀ c ∈ checks, c.1 = true) ∧ s' = s := by
  unfold checkAll
  rw [← firstError_eq_none]
  cases firstError checks with
  | none => simp
  | some e => simp

@[simp] theorem readOnly_checkAll (checks : List (Bool × Raised)) : (checkAll checks).ReadOnly := by
  unfold checkAll
  cases firstError checks with
  | none => exact readOnly_done ()
  | some e => exact readOnly_raise e

@[simp] theorem returns_checkAll_bind {checks : List (Bool × Raised)} {α : Type}
    {f : Unit → Sql α} {s s' : Store} {a : α} :
    (checkAll checks >>= f).Returns s a s' ↔
      (∀ c ∈ checks, c.1 = true) ∧ (f ()).Returns s a s' := by
  rw [(readOnly_checkAll checks).returns_bind]
  simp only [returns_checkAll, and_true]
  exact ⟨fun ⟨_, h, hf⟩ => ⟨h, hf⟩, fun ⟨h, hf⟩ => ⟨(), h, hf⟩⟩

variable {α : Type}

/-- Run a pure computation that may raise. -/
def ofExcept : Except Raised α → Sql α
  | .ok a => .done a
  | .error e => .raise e

@[simp] theorem returns_ofExcept {x : Except Raised α} {s s' : Store} {a : α} :
    (ofExcept x).Returns s a s' ↔ x = .ok a ∧ s' = s := by
  cases x with
  | ok b => simp [ofExcept, eq_comm]
  | error e => simp [ofExcept]

@[simp] theorem readOnly_ofExcept (x : Except Raised α) : (ofExcept x).ReadOnly := by
  cases x with
  | ok b => exact readOnly_done b
  | error e => exact readOnly_raise e

@[simp] theorem returns_ofExcept_bind {x : Except Raised α} {β : Type} {f : α → Sql β}
    {s s' : Store} {b : β} :
    (ofExcept x >>= f).Returns s b s' ↔ ∃ a, x = .ok a ∧ (f a).Returns s b s' := by
  rw [(readOnly_ofExcept x).returns_bind]
  simp

/-- Replace the exceptions of some classes by another one. -/
def mapError (p : Sql α) (caught : ExceptionClass → Bool) (replacement : Raised) : Sql α :=
  p.tryCatch fun e => if caught e.cls then .raise replacement else .raise e

@[simp] theorem returns_mapError {p : Sql α} {caught : ExceptionClass → Bool}
    {replacement : Raised} {s s' : Store} {a : α} :
    (mapError p caught replacement).Returns s a s' ↔ p.Returns s a s' := by
  unfold mapError
  rw [returns_tryCatch]
  constructor
  · rintro (h | ⟨e, s₁, -, h⟩)
    · exact h
    · split at h <;> exact absurd h returns_raise
  · exact .inl

theorem readOnly_mapError {p : Sql α} (hp : p.ReadOnly) (caught : ExceptionClass → Bool)
    (replacement : Raised) : (mapError p caught replacement).ReadOnly :=
  hp.tryCatch fun _ => (readOnly_raise _).ite (readOnly_raise _)

theorem writes_mapError {P : Store → List Key → (Store → Store) → Prop} {p : Sql α}
    (hp : p.Writes P) (caught : ExceptionClass → Bool) (replacement : Raised) :
    (mapError p caught replacement).Writes P :=
  hp.tryCatch fun _ => (writes_raise _).ite (writes_raise _)

/-! ### Loops -/

/-- `for item in items: body(item)`. -/
def forEach {β : Type} (body : β → Sql Unit) : List β → Sql Unit
  | [] => .done ()
  | item :: rest => do
    body item
    forEach body rest

theorem readOnly_forEach {β : Type} {body : β → Sql Unit} (h : ∀ item, (body item).ReadOnly) :
    ∀ items, (forEach body items).ReadOnly
  | [] => readOnly_done ()
  | item :: rest => (h item).bind fun _ => readOnly_forEach h rest

theorem writes_forEach {P : Store → List Key → (Store → Store) → Prop} {β : Type}
    {body : β → Sql Unit} (h : ∀ item, (body item).Writes P) :
    ∀ items, (forEach body items).Writes P
  | [] => writes_done ()
  | item :: rest => (h item).bind fun _ => writes_forEach h rest

/-- What the body preserves, the loop preserves. -/
theorem forEach_preserves {β : Type} {body : β → Sql Unit} {P : Store → Prop} {items : List β}
    (hbody : ∀ item ∈ items, ∀ s u s', P s → (body item).Returns s u s' → P s') {s s' : Store}
    {u : Unit} (hs : P s) (h : (forEach body items).Returns s u s') : P s' := by
  induction items generalizing s with
  | nil => exact (returns_done.mp h).2 ▸ hs
  | cons item rest ih =>
    obtain ⟨u₁, s₁, hfirst, hrest⟩ := returns_bind.mp h
    exact ih (fun item hi => hbody item (List.mem_cons_of_mem _ hi))
      (hbody item (List.mem_cons_self ..) s u₁ s₁ hs hfirst) hrest

/-! ### Exceptions -/

section RaisesOnly

variable {P : Raised → Prop}

theorem raisesOnly_insertInto {table : Store → Table Key ρ}
    {setTable : Store → Table Key ρ → Store} (h : P ⟨.integrityError, "UNIQUE constraint failed"⟩)
    (r : ρ) : RaisesOnly P (insertInto table setTable r) :=
  (raisesOnly_write _).bind fun _ => raisesOnly_require h

theorem raisesOnly_updateExisting {table : Store → Table Key ρ}
    {setTable : Store → Table Key ρ → Store} {k : Key} {f : ρ → ρ}
    {hf : ∀ r, k ∈ keys r → keys (f r) = keys r} {missing : Raised} (h : P missing) :
    RaisesOnly P (updateExisting table setTable k f hf missing) :=
  (raisesOnly_write _).bind fun _ => raisesOnly_require h

theorem raisesOnly_getRow {table : Store → Table Key ρ} {k : Key} {missing : Raised}
    (h : P missing) : RaisesOnly P (getRow table k missing) :=
  (raisesOnly_select _).bind fun _ => raisesOnly_orRaise h _

theorem firstError_mem {checks : List (Bool × Raised)} {e : Raised}
    (h : firstError checks = some e) : ∃ c ∈ checks, c.2 = e := by
  induction checks with
  | nil => cases h
  | cons c rest ih =>
    obtain ⟨ok, e'⟩ := c
    cases ok with
    | true =>
      obtain ⟨c, hc, he⟩ := ih h
      exact ⟨c, List.mem_cons_of_mem _ hc, he⟩
    | false => exact ⟨_, List.mem_cons_self .., Option.some.inj h⟩

theorem raisesOnly_checkAll {checks : List (Bool × Raised)} (h : ∀ c ∈ checks, P c.2) :
    RaisesOnly P (checkAll checks) := by
  unfold checkAll
  rcases hf : firstError checks with _ | e
  · exact raisesOnly_done ()
  · obtain ⟨c, hc, rfl⟩ := firstError_mem hf
    exact raisesOnly_raise (h c hc)

theorem raisesOnly_ofExcept {x : Except Raised α} (h : ∀ e, x = .error e → P e) :
    RaisesOnly P (ofExcept x) := by
  cases x with
  | ok a => exact raisesOnly_done a
  | error e => exact raisesOnly_raise (h e rfl)

theorem raisesOnly_mapError {p : Sql α} {caught : ExceptionClass → Bool} {replacement : Raised}
    (hp : RaisesOnly P p) (h : P replacement) : RaisesOnly P (mapError p caught replacement) :=
  hp.handle fun _ he => (raisesOnly_raise h).ite (raisesOnly_raise he)

/-- An exception that is not the replacement was raised inside. -/
theorem raises_mapError {p : Sql α} {caught : ExceptionClass → Bool} {replacement e : Raised}
    {s : Store} (h : (mapError p caught replacement).Raises s e) (he : e ≠ replacement) :
    p.Raises s e := by
  obtain ⟨e', s₁, hp, s', h⟩ := raises_tryCatch h
  split at h
  · exact absurd (by cases h; rfl) he
  · cases h
    exact ⟨_, hp⟩

end RaisesOnly

end SupplyResponse
