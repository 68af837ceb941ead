/-
Transaction programs over an abstract database.

A program is a tree of SQL-like statements.  Each statement sees a view of the
database, may register a write, and decides from the view how to continue;
`σ` is the database, `κ` the lock keys, `ε` the exceptions.

* `Prog.run` executes a program alone, statement after statement;
* `Prog.Returns p s a s'` — run alone from `s`, the program returns `a` and
  leaves `s'`; the `returns_*` lemmas invert it one construct at a time;
* `Prog.Writes P p` — every write of the program satisfies `P`;
* `Prog.ReadOnly` — programs that write nothing;
* `Prog.RaisesOnly`, `Prog.Raises` — which exceptions a program can raise, and
  raises from a state;
* `Exit` and `Prog.transact` — a unit of work either commits what it wrote or
  rolls back, and an exception always rolls back.

The write of a statement is kept as a function of the state, decided on the
view.
-/
import Mathlib.Logic.Basic
import Mathlib.Tactic.Common

namespace Transact

/-- A transaction program: return, raise, or execute one statement. -/
inductive Prog (σ κ ε α : Type) : Type
  | done (a : α) : Prog σ κ ε α
  | raise (e : ε) : Prog σ κ ε α
  | stmt (locks : σ → List κ) (write : σ → σ → σ) (next : σ → Prog σ κ ε α) :
      Prog σ κ ε α

namespace Prog

variable {σ κ ε α β γ : Type}

/-- Sequencing. -/
protected def bind : Prog σ κ ε α → (α → Prog σ κ ε β) → Prog σ κ ε β
  | done a, f => f a
  | raise e, _ => raise e
  | stmt locks write next, f => stmt locks write fun s => (next s).bind f

/-- Run `p`; hand an exception to `handler`, keeping the statements already
executed in the same transaction. -/
def tryCatch : Prog σ κ ε α → (ε → Prog σ κ ε α) → Prog σ κ ε α
  | done a, _ => done a
  | raise e, handler => handler e
  | stmt locks write next, handler => stmt locks write fun s => (next s).tryCatch handler

instance : Monad (Prog σ κ ε) where
  pure := done
  bind := Prog.bind

/-- Execute alone: every statement sees the state its predecessors left. -/
def run : Prog σ κ ε α → σ → Except ε α × σ
  | done a, s => (.ok a, s)
  | raise e, s => (.error e, s)
  | stmt _ write next, s => (next s).run (write s s)

/-- A query: no locks, no write. -/
def select (f : σ → α) : Prog σ κ ε α :=
  stmt (fun _ => []) (fun _ s => s) fun s => done (f s)

/-- A conditional write.  `f` looks at the view: `none` means that no row
matched, `some (locks, u)` that the rows under `locks` are rewritten by `u`.
Answers whether a row was written. -/
def write (f : σ → Option (List κ × (σ → σ))) : Prog σ κ ε Bool :=
  stmt (fun v => (f v).elim [] Prod.fst) (fun v => (f v).elim id Prod.snd)
    fun v => done (f v).isSome

/-- Raise `e` unless `c`. -/
def require (c : Prop) [Decidable c] (e : ε) : Prog σ κ ε Unit :=
  if c then done () else raise e

/-- The value, or the exception `e` where there is none. -/
def orRaise (e : ε) : Option α → Prog σ κ ε α
  | some a => done a
  | none => raise e

/-! ### The laws of sequencing -/

@[simp] theorem pure_eq_done (a : α) : (pure a : Prog σ κ ε α) = done a := rfl

@[simp] theorem bind_done (a : α) (f : α → Prog σ κ ε β) : (done a >>= f) = f a := rfl

@[simp] theorem bind_raise (e : ε) (f : α → Prog σ κ ε β) :
    ((raise e : Prog σ κ ε α) >>= f) = raise e := rfl

theorem bind_stmt (l : σ → List κ) (w : σ → σ → σ) (n : σ → Prog σ κ ε α)
    (f : α → Prog σ κ ε β) : (stmt l w n >>= f) = stmt l w fun s => n s >>= f := rfl

theorem run_bind (p : Prog σ κ ε α) (f : α → Prog σ κ ε β) (s : σ) :
    (p >>= f).run s =
      match p.run s with
      | (.ok a, s₁) => (f a).run s₁
      | (.error e, s₁) => (.error e, s₁) := by
  induction p generalizing s with
  | done a => rfl
  | raise e => rfl
  | stmt l w n ih => exact ih s (w s s)

theorem run_tryCatch (p : Prog σ κ ε α) (h : ε → Prog σ κ ε α) (s : σ) :
    (p.tryCatch h).run s =
      match p.run s with
      | (.ok a, s₁) => (.ok a, s₁)
      | (.error e, s₁) => (h e).run s₁ := by
  induction p generalizing s with
  | done a => rfl
  | raise e => rfl
  | stmt l w n ih => exact ih s (w s s)

/-! ### Inverting a run -/

/-- Run alone from `s`, the program returns `a` and leaves `s'`. -/
def Returns (p : Prog σ κ ε α) (s : σ) (a : α) (s' : σ) : Prop :=
  p.run s = (.ok a, s')

instance [DecidableEq (Except ε α × σ)] (p : Prog σ κ ε α) (s : σ) (a : α) (s' : σ) :
    Decidable (p.Returns s a s') :=
  inferInstanceAs (Decidable (p.run s = (.ok a, s')))

variable {s s' : σ} {a b : α}

@[simp] theorem returns_done : (done a : Prog σ κ ε α).Returns s b s' ↔ b = a ∧ s' = s := by
  simp only [Returns, run, Prod.mk.injEq, Except.ok.injEq]
  exact ⟨fun h => ⟨h.1.symm, h.2.symm⟩, fun h => ⟨h.1.symm, h.2.symm⟩⟩

@[simp] theorem returns_raise {e : ε} : ¬(raise e : Prog σ κ ε α).Returns s b s' := by
  simp [Returns, run]

theorem returns_bind {p : Prog σ κ ε β} {f : β → Prog σ κ ε α} :
    (p >>= f).Returns s a s' ↔ ∃ b s₁, p.Returns s b s₁ ∧ (f b).Returns s₁ a s' := by
  unfold Returns
  rw [run_bind]
  rcases hp : p.run s with ⟨_ | b, s₁⟩
  · simp
  · constructor
    · intro h
      exact ⟨b, s₁, rfl, h⟩
    · rintro ⟨b', s₁', h, h'⟩
      simp only [Prod.mk.injEq, Except.ok.injEq] at h
      obtain ⟨rfl, rfl⟩ := h
      exact h'

@[simp] theorem returns_select {f : σ → α} :
    (select f : Prog σ κ ε α).Returns s a s' ↔ a = f s ∧ s' = s := by
  simp only [Returns, select, run, Prod.mk.injEq, Except.ok.injEq]
  exact ⟨fun h => ⟨h.1.symm, h.2.symm⟩, fun h => ⟨h.1.symm, h.2.symm⟩⟩

theorem returns_write {f : σ → Option (List κ × (σ → σ))} {r : Bool} :
    (write f : Prog σ κ ε Bool).Returns s r s' ↔
      (∃ l u, f s = some (l, u) ∧ r = true ∧ s' = u s) ∨
        (f s = none ∧ r = false ∧ s' = s) := by
  simp only [Returns, write, run, Prod.mk.injEq, Except.ok.injEq]
  rcases f s with _ | ⟨l, u⟩
  · simp only [Option.isSome_none, Option.elim_none, id_eq, reduceCtorEq, false_and,
      exists_false, true_and, false_or]
    exact ⟨fun h => ⟨h.1.symm, h.2.symm⟩, fun h => ⟨h.1.symm, h.2.symm⟩⟩
  · simp only [Option.isSome_some, Option.elim_some, Option.some.injEq, Prod.mk.injEq,
      reduceCtorEq, false_and, or_false]
    constructor
    · rintro ⟨rfl, rfl⟩
      exact ⟨l, u, ⟨rfl, rfl⟩, rfl, rfl⟩
    · rintro ⟨_, _, ⟨rfl, rfl⟩, rfl, rfl⟩
      exact ⟨rfl, rfl⟩

@[simp] theorem returns_require {c : Prop} [Decidable c] {e : ε} {u : Unit} :
    (require c e : Prog σ κ ε Unit).Returns s u s' ↔ c ∧ s' = s := by
  unfold require
  by_cases h : c
  · simp [h]
  · simp [h]

@[simp] theorem returns_orRaise {e : ε} {o : Option α} :
    (orRaise e o : Prog σ κ ε α).Returns s a s' ↔ o = some a ∧ s' = s := by
  cases o with
  | none => simp [orRaise]
  | some b => simp [orRaise, eq_comm]

@[simp] theorem returns_ite {c : Prop} [Decidable c] {p q : Prog σ κ ε α} :
    (if c then p else q).Returns s a s' ↔ (c ∧ p.Returns s a s') ∨ (¬c ∧ q.Returns s a s') := by
  by_cases h : c <;> simp [h]

@[simp] theorem returns_map {p : Prog σ κ ε β} {f : β → α} :
    (f <$> p).Returns s a s' ↔ ∃ b, p.Returns s b s' ∧ a = f b := by
  show (p >>= fun b => done (f b)).Returns s a s' ↔ _
  simp only [returns_bind, returns_done]
  constructor
  · rintro ⟨b, s₁, h, rfl, rfl⟩
    exact ⟨b, h, rfl⟩
  · rintro ⟨b, h, rfl⟩
    exact ⟨b, s', h, rfl, rfl⟩

/-- A caught program either returned by itself, or raised and was handled in
the state it had reached. -/
theorem returns_tryCatch {p : Prog σ κ ε α} {h : ε → Prog σ κ ε α} :
    (p.tryCatch h).Returns s a s' ↔
      p.Returns s a s' ∨ ∃ e s₁, p.run s = (.error e, s₁) ∧ (h e).Returns s₁ a s' := by
  unfold Returns
  rw [run_tryCatch]
  rcases hp : p.run s with ⟨e | b, s₁⟩
  · simp
  · simp

/-! A program that does not write passes its state on. -/

@[simp] theorem returns_select_bind {f : σ → β} {k : β → Prog σ κ ε α} :
    (select f >>= k).Returns s a s' ↔ (k (f s)).Returns s a s' := Iff.rfl

@[simp] theorem returns_require_bind {c : Prop} [Decidable c] {e : ε} {k : Unit → Prog σ κ ε α} :
    (require c e >>= k).Returns s a s' ↔ c ∧ (k ()).Returns s a s' := by
  unfold require
  by_cases h : c
  · simp [h]
  · simp [h]

@[simp] theorem returns_orRaise_bind {e : ε} {o : Option β} {k : β → Prog σ κ ε α} :
    (orRaise e o >>= k).Returns s a s' ↔ ∃ b, o = some b ∧ (k b).Returns s a s' := by
  cases o with
  | none => simp [orRaise]
  | some b => simp [orRaise]

theorem Returns.unique {p : Prog σ κ ε α} {s₁ s₂ : σ} (h₁ : p.Returns s a s₁)
    (h₂ : p.Returns s b s₂) : a = b ∧ s₁ = s₂ := by
  unfold Returns at h₁ h₂
  rw [h₁] at h₂
  simpa using h₂

/-! ### What the statements of a program write -/

/-- Every statement of the program, on every path and whatever its view, takes
locks and registers a write that satisfy `P`. -/
def Writes (P : σ → List κ → (σ → σ) → Prop) : Prog σ κ ε α → Prop
  | done _ => True
  | raise _ => True
  | stmt l w n => ∀ v, P v (l v) (w v) ∧ (n v).Writes P

section Writes

variable {P Q : σ → List κ → (σ → σ) → Prop}

@[simp] theorem writes_done (a : α) : (done a : Prog σ κ ε α).Writes P := trivial

@[simp] theorem writes_raise (e : ε) : (raise e : Prog σ κ ε α).Writes P := trivial

theorem writes_select (hP : ∀ v, P v [] id) (f : σ → α) :
    (select f : Prog σ κ ε α).Writes P :=
  fun v => ⟨hP v, trivial⟩

theorem writes_write {f : σ → Option (List κ × (σ → σ))} (hP : ∀ v, P v [] id)
    (hf : ∀ v l u, f v = some (l, u) → P v l u) : (write f : Prog σ κ ε Bool).Writes P := by
  intro v
  refine ⟨?_, trivial⟩
  show P v ((f v).elim [] Prod.fst) ((f v).elim id Prod.snd)
  rcases h : f v with _ | ⟨l, u⟩
  · exact hP v
  · exact hf v l u h

@[simp] theorem writes_require (c : Prop) [Decidable c] (e : ε) :
    (require c e : Prog σ κ ε Unit).Writes P := by
  unfold require
  split
  · exact writes_done ()
  · exact writes_raise e

@[simp] theorem writes_orRaise (e : ε) (o : Option α) :
    (orRaise e o : Prog σ κ ε α).Writes P := by
  cases o with
  | none => exact writes_raise e
  | some a => exact writes_done a

theorem Writes.bind {p : Prog σ κ ε α} {f : α → Prog σ κ ε β} (hp : p.Writes P)
    (hf : ∀ a, (f a).Writes P) : (p >>= f).Writes P := by
  induction p with
  | done a => exact hf a
  | raise e => trivial
  | stmt l w n ih => exact fun v => ⟨(hp v).1, ih v (hp v).2⟩

theorem Writes.map {p : Prog σ κ ε α} (f : α → β) (hp : p.Writes P) : (f <$> p).Writes P :=
  hp.bind fun a => writes_done (f a)

theorem Writes.tryCatch {p : Prog σ κ ε α} {h : ε → Prog σ κ ε α} (hp : p.Writes P)
    (hh : ∀ e, (h e).Writes P) : (p.tryCatch h).Writes P := by
  induction p with
  | done a => trivial
  | raise e => exact hh e
  | stmt l w n ih => exact fun v => ⟨(hp v).1, ih v (hp v).2⟩

theorem Writes.ite {c : Prop} [Decidable c] {p q : Prog σ κ ε α} (hp : p.Writes P)
    (hq : q.Writes P) : (if c then p else q).Writes P := by
  split
  · exact hp
  · exact hq

theorem Writes.mono {p : Prog σ κ ε α} (hp : p.Writes P) (h : ∀ v l u, P v l u → Q v l u) :
    p.Writes Q := by
  induction p with
  | done a => trivial
  | raise e => trivial
  | stmt l w n ih => exact fun v => ⟨h _ _ _ (hp v).1, ih v (hp v).2⟩

/-- Run alone, the program changes the state along `R`. -/
theorem Writes.run {R : σ → σ → Prop} {p : Prog σ κ ε α} (hp : p.Writes P)
    (refl : ∀ s, R s s) (trans : ∀ {a b c}, R a b → R b c → R a c)
    (h : ∀ v l u, P v l u → R v (u v)) (s : σ) : R s (p.run s).2 := by
  induction p generalizing s with
  | done a => exact refl s
  | raise e => exact refl s
  | stmt l w n ih => exact trans (h s (l s) (w s) (hp s).1) (ih s (hp s).2 (w s s))

end Writes

/-! ### Programs that only read -/

/-- No statement locks or writes anything. -/
structure ReadOnly (p : Prog σ κ ε α) : Prop where
  quiet : p.Writes fun _ l u => l = [] ∧ u = id

theorem ReadOnly.run_snd {p : Prog σ κ ε α} (hp : p.ReadOnly) (s : σ) : (p.run s).2 = s :=
  @Writes.run _ _ _ _ _ (fun s s' => s' = s) p hp.quiet (fun _ => rfl) (fun h h' => h'.trans h)
    (fun _ _ _ h => by rw [h.2]; rfl) s

theorem ReadOnly.eq {p : Prog σ κ ε α} (hp : p.ReadOnly) (h : p.Returns s a s') : s' = s := by
  have := hp.run_snd s
  rw [h] at this
  exact this

theorem ReadOnly.run_eq {p : Prog σ κ ε α} (hp : p.ReadOnly) {r : Except ε α} {s₁ : σ}
    (h : p.run s = (r, s₁)) : s₁ = s := by
  have := hp.run_snd s
  rw [h] at this
  exact this

/-- A read-only program writes nothing that `P` forbids. -/
theorem ReadOnly.writes {P : σ → List κ → (σ → σ) → Prop} {p : Prog σ κ ε α} (hp : p.ReadOnly)
    (hP : ∀ v, P v [] id) : p.Writes P :=
  hp.quiet.mono fun v l u h => by rw [h.1, h.2]; exact hP v

/-- A read-only program is inverted in place. -/
theorem ReadOnly.returns_bind {p : Prog σ κ ε β} (hp : p.ReadOnly) {k : β → Prog σ κ ε α} :
    (p >>= k).Returns s a s' ↔ ∃ b, p.Returns s b s ∧ (k b).Returns s a s' := by
  rw [Prog.returns_bind]
  constructor
  · rintro ⟨b, s₁, h, hk⟩
    obtain rfl := hp.eq h
    exact ⟨b, h, hk⟩
  · rintro ⟨b, h, hk⟩
    exact ⟨b, s, h, hk⟩

@[simp] theorem readOnly_done (a : α) : (done a : Prog σ κ ε α).ReadOnly := ⟨trivial⟩

@[simp] theorem readOnly_raise (e : ε) : (raise e : Prog σ κ ε α).ReadOnly := ⟨trivial⟩

@[simp] theorem readOnly_select (f : σ → α) : (select f : Prog σ κ ε α).ReadOnly :=
  ⟨writes_select (fun _ => ⟨rfl, rfl⟩) f⟩

@[simp] theorem readOnly_require (c : Prop) [Decidable c] (e : ε) :
    (require c e : Prog σ κ ε Unit).ReadOnly :=
  ⟨writes_require c e⟩

@[simp] theorem readOnly_orRaise (e : ε) (o : Option α) :
    (orRaise e o : Prog σ κ ε α).ReadOnly :=
  ⟨writes_orRaise e o⟩

theorem ReadOnly.bind {p : Prog σ κ ε α} {f : α → Prog σ κ ε β} (hp : p.ReadOnly)
    (hf : ∀ a, (f a).ReadOnly) : (p >>= f).ReadOnly :=
  ⟨hp.quiet.bind fun a => (hf a).quiet⟩

theorem ReadOnly.map {p : Prog σ κ ε α} (f : α → β) (hp : p.ReadOnly) : (f <$> p).ReadOnly :=
  ⟨hp.quiet.map f⟩

theorem ReadOnly.tryCatch {p : Prog σ κ ε α} {h : ε → Prog σ κ ε α} (hp : p.ReadOnly)
    (hh : ∀ e, (h e).ReadOnly) : (p.tryCatch h).ReadOnly :=
  ⟨hp.quiet.tryCatch fun e => (hh e).quiet⟩

theorem ReadOnly.ite {c : Prop} [Decidable c] {p q : Prog σ κ ε α} (hp : p.ReadOnly)
    (hq : q.ReadOnly) : (if c then p else q).ReadOnly :=
  ⟨hp.quiet.ite hq.quiet⟩

/-! ### Raised exceptions -/

/-- Every exception the program can raise, run alone, satisfies `P`. -/
def RaisesOnly (P : ε → Prop) (p : Prog σ κ ε α) : Prop :=
  ∀ s e s', p.run s = (.error e, s') → P e

variable {P : ε → Prop}

theorem raisesOnly_done (a : α) : RaisesOnly P (done a : Prog σ κ ε α) := by
  intro s e s' h
  cases h

theorem raisesOnly_raise {e : ε} (he : P e) : RaisesOnly P (raise e : Prog σ κ ε α) := by
  intro s e' s' h
  cases h
  exact he

theorem raisesOnly_require {c : Prop} [Decidable c] {e : ε} (he : P e) :
    RaisesOnly P (require c e : Prog σ κ ε Unit) := by
  unfold require
  split
  · exact raisesOnly_done ()
  · exact raisesOnly_raise he

theorem RaisesOnly.bind {p : Prog σ κ ε α} {f : α → Prog σ κ ε β} (hp : RaisesOnly P p)
    (hf : ∀ a, RaisesOnly P (f a)) : RaisesOnly P (p >>= f) := by
  intro s e s' h
  rw [run_bind] at h
  rcases hr : p.run s with ⟨e' | a, s₁⟩ <;> rw [hr] at h
  · cases h
    exact hp s _ _ hr
  · exact hf a s₁ e s' h

theorem raisesOnly_select (f : σ → α) : RaisesOnly P (select f : Prog σ κ ε α) := by
  intro s e s' h
  cases h

theorem raisesOnly_write (f : σ → Option (List κ × (σ → σ))) :
    RaisesOnly P (write f : Prog σ κ ε Bool) := by
  intro s e s' h
  cases h

theorem raisesOnly_orRaise {e : ε} (he : P e) (o : Option α) :
    RaisesOnly P (orRaise e o : Prog σ κ ε α) := by
  cases o with
  | none => exact raisesOnly_raise he
  | some a => exact raisesOnly_done a

theorem RaisesOnly.ite {c : Prop} [Decidable c] {p q : Prog σ κ ε α} (hp : RaisesOnly P p)
    (hq : RaisesOnly P q) : RaisesOnly P (if c then p else q) := by
  split
  · exact hp
  · exact hq

theorem RaisesOnly.map {p : Prog σ κ ε α} (f : α → β) (hp : RaisesOnly P p) :
    RaisesOnly P (f <$> p) :=
  hp.bind fun _ => raisesOnly_done _

theorem RaisesOnly.tryCatch {p : Prog σ κ ε α} {h : ε → Prog σ κ ε α}
    (hh : ∀ e, RaisesOnly P (h e)) : RaisesOnly P (p.tryCatch h) := by
  intro s e s' hr
  rw [run_tryCatch] at hr
  rcases hp : p.run s with ⟨e' | a, s₁⟩ <;> rw [hp] at hr
  · exact hh e' s₁ e s' hr
  · cases hr

/-- A handler that only sees exceptions satisfying `P`. -/
theorem RaisesOnly.handle {Q : ε → Prop} {p : Prog σ κ ε α} {h : ε → Prog σ κ ε α}
    (hp : RaisesOnly P p) (hh : ∀ e, P e → RaisesOnly Q (h e)) : RaisesOnly Q (p.tryCatch h) := by
  intro s e s' hr
  rw [run_tryCatch] at hr
  rcases hrun : p.run s with ⟨e' | a, s₁⟩ <;> rw [hrun] at hr
  · exact hh e' (hp _ _ _ hrun) s₁ e s' hr
  · cases hr

/-- Run alone from `s`, the program raises `e`. -/
def Raises (p : Prog σ κ ε α) (s : σ) (e : ε) : Prop := ∃ s', p.run s = (.error e, s')

theorem RaisesOnly.of_raises {p : Prog σ κ ε α} (hp : RaisesOnly P p) {s : σ} {e : ε}
    (h : p.Raises s e) : P e :=
  hp _ _ _ h.choose_spec

/-- An exception of a sequence comes from its first or from its second program. -/
theorem raises_bind_cases {p : Prog σ κ ε α} {f : α → Prog σ κ ε β} {s : σ} {e : ε}
    (h : (p >>= f).Raises s e) :
    p.Raises s e ∨ ∃ a s₁, p.Returns s a s₁ ∧ (f a).Raises s₁ e := by
  obtain ⟨s', h⟩ := h
  rw [run_bind] at h
  rcases hr : p.run s with ⟨e' | a, s₁⟩ <;> rw [hr] at h
  · cases h
    exact .inl ⟨s', hr⟩
  · exact .inr ⟨a, s₁, hr, s', h⟩

/-- An exception that the first program cannot raise comes from the second. -/
theorem RaisesOnly.raises_bind {p : Prog σ κ ε α} {f : α → Prog σ κ ε β} (hp : RaisesOnly P p)
    {s : σ} {e : ε} (he : ¬P e) (h : (p >>= f).Raises s e) :
    ∃ a s₁, p.Returns s a s₁ ∧ (f a).Raises s₁ e :=
  (raises_bind_cases h).resolve_left fun ⟨_, hr⟩ => he (hp _ _ _ hr)

/-- The same, where the first program leaves the state alone. -/
theorem ReadOnly.raises_bind {p : Prog σ κ ε α} {f : α → Prog σ κ ε β} (hr : p.ReadOnly)
    (hp : RaisesOnly P p) {s : σ} {e : ε} (he : ¬P e) (h : (p >>= f).Raises s e) :
    ∃ a, p.Returns s a s ∧ (f a).Raises s e := by
  obtain ⟨a, s₁, hret, hf⟩ := hp.raises_bind he h
  obtain rfl := hr.eq hret
  exact ⟨a, hret, hf⟩

theorem raises_require_bind {c : Prop} [Decidable c] {e e' : ε} {f : Unit → Prog σ κ ε β} {s : σ}
    (he : e ≠ e') (h : (require c e >>= f).Raises s e') : c ∧ (f ()).Raises s e' := by
  unfold require at h
  split at h
  · exact ⟨‹c›, h⟩
  · obtain ⟨s', h⟩ := h
    cases h
    exact absurd rfl he

/-- An exception of a program followed by a plain return is its own. -/
theorem raises_bind_done {p : Prog σ κ ε α} {f : α → β} {s : σ} {e : ε}
    (h : (p >>= fun a => done (f a)).Raises s e) : p.Raises s e := by
  rcases raises_bind_cases h with h | ⟨a, s₁, -, s', hd⟩
  · exact h
  · cases hd

theorem raises_raise {e : ε} {s : σ} : (raise e : Prog σ κ ε α).Raises s e := ⟨s, rfl⟩

theorem Returns.raises_bind {p : Prog σ κ ε α} {f : α → Prog σ κ ε β} {s s₁ : σ} {a : α} {e : ε}
    (h : p.Returns s a s₁) (hf : (f a).Raises s₁ e) : (p >>= f).Raises s e := by
  obtain ⟨s', hf⟩ := hf
  refine ⟨s', ?_⟩
  rw [run_bind, show p.run s = (.ok a, s₁) from h]
  exact hf

theorem Raises.bind {p : Prog σ κ ε α} {f : α → Prog σ κ ε β} {s : σ} {e : ε}
    (h : p.Raises s e) : (p >>= f).Raises s e := by
  obtain ⟨s', h⟩ := h
  exact ⟨s', by rw [run_bind, h]⟩

theorem raises_require {c : Prop} [Decidable c] {e : ε} {s : σ} (hc : ¬c) :
    (require c e : Prog σ κ ε Unit).Raises s e := by
  unfold require
  rw [if_neg hc]
  exact raises_raise

/-- An exception of a caught program comes from its handler. -/
theorem raises_tryCatch {p : Prog σ κ ε α} {h : ε → Prog σ κ ε α} {s : σ} {e : ε}
    (hr : (p.tryCatch h).Raises s e) : ∃ e' s₁, p.run s = (.error e', s₁) ∧ (h e').Raises s₁ e := by
  obtain ⟨s', hr⟩ := hr
  rw [run_tryCatch] at hr
  rcases hp : p.run s with ⟨e' | a, s₁⟩ <;> rw [hp] at hr
  · exact ⟨e', s₁, rfl, s', hr⟩
  · cases hr

end Prog

/-! ### Units of work -/

/-- How a unit of work ends when no exception is raised: the answer, and
whether the writes were committed. -/
inductive Exit (α : Type) : Type
  | commit (a : α)
  | rollback (a : α)

/-- What the caller receives. -/
def Exit.answer {α : Type} : Exit α → α
  | .commit a => a
  | .rollback a => a

namespace Prog

variable {σ κ ε α : Type}

/-- One unit of work alone: its result and the committed state after it. -/
def transact (p : Prog σ κ ε (Exit α)) (s : σ) : Except ε α × σ :=
  match p.run s with
  | (.ok (.commit a), s') => (.ok a, s')
  | (.ok (.rollback a), _) => (.ok a, s)
  | (.error e, _) => (.error e, s)

theorem raises_of_transact {p : Prog σ κ ε (Exit α)} {s s' : σ} {e : ε}
    (h : p.transact s = (.error e, s')) : p.Raises s e := by
  unfold transact at h
  rcases hp : p.run s with ⟨e' | ⟨a⟩ | ⟨a⟩, s₁⟩ <;> rw [hp] at h <;> simp only [Prod.mk.injEq,
    Except.error.injEq, reduceCtorEq, false_and] at h
  exact ⟨s₁, h.1 ▸ hp⟩

/-- The unit of work commits the answer `a` and the state `s'`. -/
def Commits (p : Prog σ κ ε (Exit α)) (s : σ) (a : α) (s' : σ) : Prop :=
  p.Returns s (.commit a) s'

/-- A unit of work changes the committed state only by committing. -/
theorem transact_cases (p : Prog σ κ ε (Exit α)) (s : σ) :
    (p.transact s).2 = s ∨ ∃ a, p.Commits s a (p.transact s).2 := by
  unfold transact Commits Returns
  rcases hp : p.run s with ⟨e | ⟨a⟩ | ⟨a⟩, s'⟩
  · exact .inl rfl
  · exact .inr ⟨a, rfl⟩
  · exact .inl rfl

/-- A unit of work that returned committed, or rolled back. -/
theorem transact_ok {p : Prog σ κ ε (Exit α)} {s s' : σ} {a : α}
    (h : p.transact s = (.ok a, s')) :
    p.Commits s a s' ∨ (s' = s ∧ ∃ s₁, p.Returns s (.rollback a) s₁) := by
  unfold transact at h
  unfold Commits Returns
  rcases hp : p.run s with ⟨e | ⟨b⟩ | ⟨b⟩, s₁⟩ <;> rw [hp] at h <;> cases h
  · exact .inl rfl
  · exact .inr ⟨rfl, s₁, rfl⟩

/-- An exception leaves the committed state as it was. -/
theorem transact_error {p : Prog σ κ ε (Exit α)} {s s' : σ} {e : ε}
    (h : p.transact s = (.error e, s')) : s' = s := by
  unfold transact at h
  rcases hp : p.run s with ⟨e' | ⟨a⟩ | ⟨a⟩, s₁⟩ <;> rw [hp] at h <;> simp_all

theorem transact_of_rollback {p : Prog σ κ ε (Exit α)} {s s' : σ} {a : α}
    (h : p.Returns s (.rollback a) s') : p.transact s = (.ok a, s) := by
  unfold transact
  rw [show p.run s = (.ok (.rollback a), s') from h]

theorem transact_of_raises {p : Prog σ κ ε (Exit α)} {s : σ} {e : ε} (h : p.Raises s e) :
    p.transact s = (.error e, s) := by
  obtain ⟨s', h⟩ := h
  unfold transact
  rw [h]

/-- A check of what a program returned, for runs that are evaluated. -/
def checkReturned (p : Prog σ κ ε α) (s : σ) (check : α → σ → Bool) : Bool :=
  match p.run s with
  | (.ok a, s') => check a s'
  | (.error _, _) => false

theorem exists_of_checkReturned {p : Prog σ κ ε α} {s : σ} {check : α → σ → Bool}
    (h : p.checkReturned s check = true) : ∃ a s', p.Returns s a s' ∧ check a s' = true := by
  unfold checkReturned at h
  rcases hr : p.run s with ⟨e | a, s'⟩ <;> rw [hr] at h
  · cases h
  · exact ⟨a, s', hr, h⟩

/-- A check of what a unit of work committed. -/
def checkCommitted (p : Prog σ κ ε (Exit α)) (s : σ) (check : α → σ → Bool) : Bool :=
  p.checkReturned s fun
    | .commit a, s' => check a s'
    | .rollback _, _ => false

theorem exists_of_checkCommitted {p : Prog σ κ ε (Exit α)} {s : σ} {check : α → σ → Bool}
    (h : p.checkCommitted s check = true) : ∃ a s', p.Commits s a s' ∧ check a s' = true := by
  obtain ⟨a | a, s', hr, hcheck⟩ := exists_of_checkReturned h
  · exact ⟨a, s', hr, hcheck⟩
  · cases hcheck

/-- The program broken off by `e` before the statement number `n`, or before it
ends if it has `n` statements. -/
def interrupt (e : ε) : ℕ → Prog σ κ ε α → Prog σ κ ε α
  | 0, _ => raise e
  | _ + 1, done a => done a
  | _ + 1, raise e' => raise e'
  | n + 1, stmt locks write next => stmt locks write fun s => (next s).interrupt e n

/-- What a program returned that was not broken off in time, it returns. -/
theorem returns_of_interrupt {p : Prog σ κ ε α} {e : ε} {n : ℕ} {s s' : σ} {a : α}
    (h : (p.interrupt e n).Returns s a s') : p.Returns s a s' := by
  induction p generalizing n s with
  | done b =>
    cases n with
    | zero => cases h
    | succ n => exact h
  | raise e' =>
    cases n with
    | zero => cases h
    | succ n => exact h
  | stmt locks write next ih =>
    cases n with
    | zero => cases h
    | succ n => exact ih _ h

theorem transact_of_commits {p : Prog σ κ ε (Exit α)} {s s' : σ} {a : α}
    (h : p.Commits s a s') : p.transact s = (.ok a, s') := by
  unfold transact
  rw [show p.run s = (.ok (.commit a), s') from h]

end Prog

end Transact
