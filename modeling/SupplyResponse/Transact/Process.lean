/-
Procedures of several atomic actions on a shared world.

A `Process` returns, raises, or does one atomic action and goes on with its
answer; between two of its actions others may act.

* `Process.step`, `Process.run` — one action, and all of them without a break,
  with `run_bind_cases` for a sequence;
* `Process.unit`, `Process.transaction`, `Process.attempt` — a unit of work as an
  atomic action;
* `Process.Obeys` — the actions of a procedure are in `G`, as long as the
  others act along `R`; the `obeys_*` lemmas are its rules;
* `Pool` — a world and the procedures under way, which act in any order, may be
  started at any time and need not go on;
* `Pool.ReachesWhen`, `Pool.ReachesUnder` — the pools that are reached by steps
  under a condition on the world, or on the whole pool;
* `Pool.actAt` — a step named by the index of its procedure, and `Pool.Within`, a
  condition on the steps that a list of indices names;
* `Pool.sound`, `Pool.ReachesWhen.sound` — if all procedures obey, every world
  that is reached keeps the invariant, and is reached along `G`.
-/
import Mathlib.Logic.Relation
import SupplyResponse.Transact.Program

namespace Transact

/-- A procedure: return, raise, or do one atomic action on the world. -/
inductive Process (ω ε α : Type) : Type 1
  | done (a : α) : Process ω ε α
  | raise (e : ε) : Process ω ε α
  | act {β : Type} (action : ω → β × ω) (next : β → Process ω ε α) : Process ω ε α

namespace Process

variable {ω ε α β : Type}

/-- Sequencing. -/
protected def bind : Process ω ε α → (α → Process ω ε β) → Process ω ε β
  | done a, f => f a
  | raise e, _ => raise e
  | act action next, f => act action fun b => (next b).bind f

instance : Monad (Process ω ε) where
  pure := done
  bind := Process.bind

/-- Run `p`; hand an exception to `handler`. -/
def tryCatch : Process ω ε α → (ε → Process ω ε α) → Process ω ε α
  | done a, _ => done a
  | raise e, handler => handler e
  | act action next, handler => act action fun b => (next b).tryCatch handler

/-- The next action. -/
def step : Process ω ε α → ω → Process ω ε α × ω
  | done a, w => (done a, w)
  | raise e, w => (raise e, w)
  | act action next, w => (next (action w).1, (action w).2)

/-- All actions without a break. -/
def run : Process ω ε α → ω → Except ε α × ω
  | done a, w => (.ok a, w)
  | raise e, w => (.error e, w)
  | act action next, w => (next (action w).1).run (action w).2

@[simp] theorem pure_eq_done (a : α) : (pure a : Process ω ε α) = done a := rfl

@[simp] theorem bind_done (a : α) (f : α → Process ω ε β) : (done a >>= f) = f a := rfl

@[simp] theorem bind_raise (e : ε) (f : α → Process ω ε β) :
    ((raise e : Process ω ε α) >>= f) = raise e := rfl

theorem bind_act {γ : Type} (action : ω → γ × ω) (next : γ → Process ω ε α)
    (f : α → Process ω ε β) : (act action next >>= f) = act action fun b => next b >>= f := rfl

theorem step_run (p : Process ω ε α) (w : ω) : (p.step w).1.run (p.step w).2 = p.run w := by
  cases p <;> rfl

/-! ### Uninterrupted runs -/

/-- Raise `e` unless `c`. -/
def check (c : Prop) [Decidable c] (e : ε) : Process ω ε Unit := if c then done () else raise e

@[simp] theorem run_done (a : α) (w : ω) : (done a : Process ω ε α).run w = (.ok a, w) := rfl

@[simp] theorem run_raise (e : ε) (w : ω) : (raise e : Process ω ε α).run w = (.error e, w) := rfl

theorem run_bind (p : Process ω ε α) (f : α → Process ω ε β) (w : ω) :
    (p >>= f).run w =
      match p.run w with
      | (.ok a, w') => (f a).run w'
      | (.error e, w') => (.error e, w') := by
  induction p generalizing w with
  | done a => rfl
  | raise e => rfl
  | act action next ih => exact ih _ _

/-- A run of two parts ends in the second one, or where the first one raises. -/
theorem run_bind_cases {p : Process ω ε α} {f : α → Process ω ε β} {w w'' : ω} {r : Except ε β}
    (h : (p >>= f).run w = (r, w'')) :
    (∃ a w', p.run w = (.ok a, w') ∧ (f a).run w' = (r, w'')) ∨
      ∃ e, p.run w = (.error e, w'') ∧ r = .error e := by
  rw [run_bind] at h
  rcases hp : p.run w with ⟨e | a, w'⟩ <;> rw [hp] at h
  · obtain ⟨rfl, rfl⟩ := Prod.mk.inj h
    exact .inr ⟨e, rfl, rfl⟩
  · exact .inl ⟨a, w', rfl, h⟩

theorem run_check_bind_cases {c : Prop} [Decidable c] {e : ε} {f : Unit → Process ω ε β}
    {w w' : ω} {r : Except ε β} (h : (check c e >>= f).run w = (r, w')) :
    (c ∧ (f ()).run w = (r, w')) ∨ (¬c ∧ r = .error e ∧ w' = w) := by
  by_cases hc : c
  · exact .inl ⟨hc, by simpa only [check, if_pos hc, bind_done] using h⟩
  · rw [check, if_neg hc, bind_raise, run_raise] at h
    obtain ⟨rfl, rfl⟩ := Prod.mk.inj h
    exact .inr ⟨hc, rfl, rfl⟩

end Process

/-! ### Units of work as actions -/

namespace Prog

variable {σ κ ε α : Type}

/-- One unit of work alone: how it ended and the committed state after it. -/
def close (p : Prog σ κ ε (Exit α)) (s : σ) : Except ε (Exit α) × σ :=
  match p.run s with
  | (.ok (.commit a), s') => (.ok (.commit a), s')
  | (.ok (.rollback a), _) => (.ok (.rollback a), s)
  | (.error e, _) => (.error e, s)

/-- A unit of work returned without a commit, committed, or raised. -/
theorem close_cases (p : Prog σ κ ε (Exit α)) (s : σ) :
    (∃ a s', p.Returns s (.rollback a) s' ∧ p.close s = (.ok (.rollback a), s)) ∨
      (∃ a s', p.Commits s a s' ∧ p.close s = (.ok (.commit a), s')) ∨
      ∃ e, p.Raises s e ∧ p.close s = (.error e, s) := by
  unfold close Commits Returns Raises
  rcases p.run s with ⟨e | ⟨a⟩ | ⟨a⟩, s'⟩
  · exact .inr (.inr ⟨e, ⟨s', rfl⟩, rfl⟩)
  · exact .inr (.inl ⟨a, s', rfl, rfl⟩)
  · exact .inl ⟨a, s', rfl, rfl⟩

end Prog

namespace Process

variable {σ κ ω ε α β : Type}

/-- An exception raised by an action is raised by the procedure. -/
def ofExcept : Except ε α → Process ω ε α
  | .ok a => done a
  | .error e => raise e

/-- A unit of work; answers how it ended. -/
def unit (p : Prog σ κ ε (Exit α)) : Process σ ε (Exit α) := act p.close ofExcept

/-- A unit of work; answers what it returned. -/
def transaction (p : Prog σ κ ε (Exit α)) : Process σ ε α := do
  let x ← unit p
  pure x.answer

/-- A unit of work whose exceptions the procedure handles itself. -/
def attempt {ε' : Type} (p : Prog σ κ ε (Exit α)) : Process σ ε' (Except ε α) :=
  act p.close fun x => done (x.map Exit.answer)

/-- The first action of a procedure that begins with a unit of work. -/
theorem step_transaction_bind {p : Prog σ κ ε (Exit α)} {f : α → Process σ ε β} {s s' : σ}
    {x : Exit α} (h : p.close s = (.ok x, s')) :
    (transaction p >>= f).step s = (f x.answer, s') := by
  show (((ofExcept (p.close s).1 : Process σ ε (Exit α)).bind fun x => pure x.answer).bind f,
    (p.close s).2) = _
  rw [h]
  rfl

/-- A procedure ends where its first unit of work raises. -/
theorem step_transaction_bind_of_raises {p : Prog σ κ ε (Exit α)} {f : α → Process σ ε β} {s : σ}
    {e : ε} (h : p.Raises s e) : (transaction p >>= f).step s = (raise e, s) := by
  obtain ⟨s', h⟩ := h
  have hclose : p.close s = (.error e, s) := by
    unfold Prog.close
    rw [h]
  show (((ofExcept (p.close s).1 : Process σ ε (Exit α)).bind fun x => pure x.answer).bind f,
    (p.close s).2) = _
  rw [hclose]
  rfl

@[simp] theorem run_ofExcept (x : Except ε α) (w : ω) :
    (ofExcept x : Process ω ε α).run w = (x, w) := by
  cases x <;> rfl

/-- How a procedure goes on behind a unit of work. -/
theorem step_transaction_cases (p : Prog σ κ ε (Exit α)) (f : α → Process σ ε β) (s : σ) :
    (∃ a s', p.Commits s a s' ∧ (transaction p >>= f).step s = (f a, s')) ∨
      (∃ a s', p.Returns s (.rollback a) s' ∧ (transaction p >>= f).step s = (f a, s)) ∨
      ∃ e, p.Raises s e ∧ (transaction p >>= f).step s = (raise e, s) := by
  rcases p.close_cases s with ⟨a, s', h, hclose⟩ | ⟨a, s', h, hclose⟩ | ⟨e, h, -⟩
  · exact .inr (.inl ⟨a, s', h, step_transaction_bind hclose⟩)
  · exact .inl ⟨a, s', h, step_transaction_bind hclose⟩
  · exact .inr (.inr ⟨e, h, step_transaction_bind_of_raises h⟩)

theorem bind_assoc {γ : Type} (p : Process ω ε α) (f : α → Process ω ε β)
    (g : β → Process ω ε γ) : (p >>= f) >>= g = p >>= fun a => f a >>= g := by
  induction p with
  | done a => rfl
  | raise e => rfl
  | act action next ih => exact congrArg (act action) (funext ih)

/-! ### Rely and guarantee -/

/-- From `w` on, whatever the others do along `R`: every action that finds a
world with `I` is in `G`, and a return is at a world with the postcondition. -/
def Obeys (I : ω → Prop) (R G : ω → ω → Prop) (Q : α → ω → Prop) : Process ω ε α → ω → Prop
  | done a, w => Q a w
  | raise _, _ => True
  | act action next, w => ∀ w', R w w' → I w' →
      G w' (action w').2 ∧ (next (action w').1).Obeys I R G Q (action w').2

section Obeys

variable {I : ω → Prop} {R G : ω → ω → Prop} {Q Q' : α → ω → Prop} {w w' : ω}

@[simp] theorem obeys_done {a : α} : (done a : Process ω ε α).Obeys I R G Q w ↔ Q a w := Iff.rfl

@[simp] theorem obeys_raise {e : ε} : (raise e : Process ω ε α).Obeys I R G Q w := trivial

theorem Obeys.mono {p : Process ω ε α} (h : p.Obeys I R G Q w) (hQ : ∀ a w, Q a w → Q' a w) :
    p.Obeys I R G Q' w := by
  induction p generalizing w with
  | done a => exact hQ a w h
  | raise e => trivial
  | act action next ih =>
    intro w' hR hI
    obtain ⟨hG, hnext⟩ := h w' hR hI
    exact ⟨hG, ih _ hnext⟩

theorem Obeys.bind {p : Process ω ε α} {f : α → Process ω ε β} {Q' : β → ω → Prop}
    (h : p.Obeys I R G Q w) (hf : ∀ a w, Q a w → (f a).Obeys I R G Q' w) :
    (p >>= f).Obeys I R G Q' w := by
  induction p generalizing w with
  | done a => exact hf a w h
  | raise e => trivial
  | act action next ih =>
    intro w' hR hI
    obtain ⟨hG, hnext⟩ := h w' hR hI
    exact ⟨hG, ih _ hnext⟩

theorem Obeys.ite {c : Prop} [Decidable c] {p q : Process ω ε α} (hp : c → p.Obeys I R G Q w)
    (hq : ¬c → q.Obeys I R G Q w) : (if c then p else q).Obeys I R G Q w := by
  split
  · exact hp ‹_›
  · exact hq ‹_›

/-- What the others do does not break a procedure that obeys.  A return is not
an action, so its postcondition has to last. -/
theorem Obeys.later {p : Process ω ε α} (trans : ∀ {a b c}, R a b → R b c → R a c)
    (hQ : ∀ a {w w'}, R w w' → Q a w → Q a w') (h : p.Obeys I R G Q w) (hR : R w w') :
    p.Obeys I R G Q w' := by
  cases p with
  | done a => exact hQ a hR h
  | raise e => trivial
  | act action next => exact fun w'' hR' hI => h w'' (trans hR hR') hI

/-- The next action of a procedure that obeys. -/
theorem Obeys.step {p : Process ω ε α} (h : p.Obeys I R G Q w) (hR : ∀ w, R w w)
    (hG : ∀ w, G w w) (hI : I w) :
    G w (p.step w).2 ∧ (p.step w).1.Obeys I R G Q (p.step w).2 := by
  cases p with
  | done a => exact ⟨hG w, h⟩
  | raise e => exact ⟨hG w, trivial⟩
  | act action next => exact h w (hR w) hI

end Obeys

section Units

variable {I : σ → Prop} {R G : σ → σ → Prop} {s : σ}

/-- A unit of work obeys by what it commits and by what it returns. -/
theorem obeys_unit {p : Prog σ κ ε (Exit α)} {Q : Exit α → σ → Prop} (refl : ∀ s, G s s)
    (hc : ∀ s' a s'', R s s' → I s' → p.Commits s' a s'' → G s' s'' ∧ Q (.commit a) s'')
    (hr : ∀ s' a s'', R s s' → I s' → p.Returns s' (.rollback a) s'' → Q (.rollback a) s') :
    (unit p).Obeys I R G Q s := by
  intro s' hR hI
  rcases p.close_cases s' with ⟨a, s'', h, hclose⟩ | ⟨a, s'', h, hclose⟩ | ⟨e, -, hclose⟩ <;>
    rw [hclose]
  · exact ⟨refl s', hr s' a s'' hR hI h⟩
  · exact hc s' a s'' hR hI h
  · exact ⟨refl s', trivial⟩

theorem obeys_transaction {p : Prog σ κ ε (Exit α)} {Q : α → σ → Prop} (refl : ∀ s, G s s)
    (hc : ∀ s' a s'', R s s' → I s' → p.Commits s' a s'' → G s' s'' ∧ Q a s'')
    (hr : ∀ s' a s'', R s s' → I s' → p.Returns s' (.rollback a) s'' → Q a s') :
    (transaction p).Obeys I R G Q s := by
  have h : (unit p).Obeys I R G (fun x => Q x.answer) s := obeys_unit refl hc hr
  exact h.bind fun x s' hQ => obeys_done.mpr hQ

/-- A unit of work whose exceptions are handled obeys by the ways in which it ends. -/
theorem obeys_attempt {ε' : Type} {p : Prog σ κ ε (Exit α)} {Q : Except ε α → σ → Prop}
    (refl : ∀ s, G s s)
    (hc : ∀ s' a s'', R s s' → I s' → p.Commits s' a s'' → G s' s'' ∧ Q (.ok a) s'')
    (hr : ∀ s' a s'', R s s' → I s' → p.Returns s' (.rollback a) s'' → Q (.ok a) s')
    (he : ∀ s' e, R s s' → I s' → Q (.error e) s') :
    (attempt p : Process σ ε' (Except ε α)).Obeys I R G Q s := by
  intro s' hR hI
  rcases p.close_cases s' with ⟨a, s'', h, hclose⟩ | ⟨a, s'', h, hclose⟩ | ⟨e, -, hclose⟩ <;>
    rw [hclose]
  · exact ⟨refl s', hr s' a s'' hR hI h⟩
  · exact hc s' a s'' hR hI h
  · exact ⟨refl s', he s' e hR hI⟩

/-- A unit of work that only reads obeys whatever others may rely on. -/
theorem obeys_read {p : Prog σ κ ε (Exit α)} {Q : α → σ → Prop} (refl : ∀ s, G s s)
    (hp : p.ReadOnly) (hQ : ∀ s' x, R s s' → I s' → p.Returns s' x s' → Q x.answer s') :
    (transaction p).Obeys I R G Q s := by
  refine obeys_transaction refl (fun s' a s'' hR hI h => ?_) (fun s' a s'' hR hI h => ?_)
  · obtain rfl := hp.eq h
    exact ⟨refl _, hQ _ _ hR hI h⟩
  · obtain rfl := hp.eq h
    exact hQ _ _ hR hI h

end Units

end Process

/-! ### Procedures under way -/

/-- A world, and the procedures that have been started on it. -/
structure Pool (ω ε α : Type) : Type 1 where
  world : ω
  calls : List (Process ω ε α)

namespace Pool

variable {ω ε α : Type} {starts : Process ω ε α → Prop}

/-- Start a procedure, or do the next action of one of them. -/
inductive Step (starts : Process ω ε α → Prop) : Pool ω ε α → Pool ω ε α → Prop
  | start {w : ω} {calls : List (Process ω ε α)} (p : Process ω ε α) (h : starts p) :
    Step starts ⟨w, calls⟩ ⟨w, p :: calls⟩
  | act {w : ω} (before after : List (Process ω ε α)) (p : Process ω ε α) :
    Step starts ⟨w, before ++ p :: after⟩ ⟨(p.step w).2, before ++ (p.step w).1 :: after⟩

abbrev Reaches (starts : Process ω ε α → Prop) : Pool ω ε α → Pool ω ε α → Prop :=
  Relation.ReflTransGen (Step starts)

/-- Every world that procedures reach that obey, they reach along `G`. -/
theorem sound {I : ω → Prop} {R G : ω → ω → Prop} (reflR : ∀ w, R w w)
    (trans : ∀ {a b c}, R a b → R b c → R a c) (reflG : ∀ w, G w w)
    (hGR : ∀ {w w'}, I w → G w w' → R w w') (hI : ∀ {w w'}, I w → G w w' → I w')
    (hstart : ∀ p, starts p → ∀ w, I w → p.Obeys I R G (fun _ _ => True) w) {c c' : Pool ω ε α}
    (hw : I c.world) (hcalls : ∀ p ∈ c.calls, p.Obeys I R G (fun _ _ => True) c.world)
    (h : Reaches starts c c') :
    I c'.world ∧ Relation.ReflTransGen G c.world c'.world ∧
      ∀ p ∈ c'.calls, p.Obeys I R G (fun _ _ => True) c'.world := by
  induction h with
  | refl => exact ⟨hw, .refl, hcalls⟩
  | tail _ hstep ih =>
    obtain ⟨hinv, hreach, hobey⟩ := ih
    cases hstep with
    | start p hp =>
      refine ⟨hinv, hreach, fun q hq => ?_⟩
      rcases List.mem_cons.mp hq with rfl | hq
      · exact hstart q hp _ hinv
      · exact hobey q hq
    | act before after p =>
      have hp := hobey p (List.mem_append_right _ (List.mem_cons_self ..))
      obtain ⟨hG, hnext⟩ := hp.step reflR reflG hinv
      refine ⟨hI hinv hG, hreach.tail hG, fun q hq => ?_⟩
      have hlater : ∀ q ∈ before ++ p :: after, q.Obeys I R G (fun _ _ => True) (p.step _).2 :=
        fun q hq => (hobey q hq).later trans (fun _ _ _ _ => id) (hGR hinv hG)
      rcases List.mem_append.mp hq with hq | hq
      · exact hlater q (List.mem_append_left _ hq)
      · rcases List.mem_cons.mp hq with rfl | hq
        · exact hnext
        · exact hlater q (List.mem_append_right _ (List.mem_cons_of_mem _ hq))

/-- A step in which the procedure that acts meets a condition on the world. -/
inductive StepWhen (starts : Process ω ε α → Prop) (ok : ω → Process ω ε α → Prop) :
    Pool ω ε α → Pool ω ε α → Prop
  | start {w : ω} {calls : List (Process ω ε α)} (p : Process ω ε α) (h : starts p) :
    StepWhen starts ok ⟨w, calls⟩ ⟨w, p :: calls⟩
  | act {w : ω} (before after : List (Process ω ε α)) (p : Process ω ε α) (h : ok w p) :
    StepWhen starts ok ⟨w, before ++ p :: after⟩ ⟨(p.step w).2, before ++ (p.step w).1 :: after⟩

abbrev ReachesWhen (starts : Process ω ε α → Prop) (ok : ω → Process ω ε α → Prop) :
    Pool ω ε α → Pool ω ε α → Prop :=
  Relation.ReflTransGen (StepWhen starts ok)

/-- If every procedure has one of the forms `F` when it starts, and under the
condition its actions keep the form and the invariant, then these hold in every
pool that is reached under the condition. -/
theorem ReachesWhen.invariant {ok : ω → Process ω ε α → Prop} {I : ω → Prop}
    {F : Process ω ε α → Prop} (hstart : ∀ p, starts p → F p)
    (hstep : ∀ w p, I w → F p → ok w p → I (p.step w).2 ∧ F (p.step w).1) {c c' : Pool ω ε α}
    (h : ReachesWhen starts ok c c') (hw : I c.world) (hcalls : ∀ p ∈ c.calls, F p) :
    I c'.world ∧ ∀ p ∈ c'.calls, F p := by
  induction h with
  | refl => exact ⟨hw, hcalls⟩
  | tail _ hnext ih =>
    obtain ⟨hinv, hforms⟩ := ih
    cases hnext with
    | start p hp =>
      refine ⟨hinv, fun q hq => ?_⟩
      rcases List.mem_cons.mp hq with rfl | hq
      · exact hstart q hp
      · exact hforms q hq
    | act before after p hok =>
      have hp := hforms p (List.mem_append_right _ (List.mem_cons_self ..))
      obtain ⟨hinv', hform⟩ := hstep _ p hinv hp hok
      refine ⟨hinv', fun q hq => ?_⟩
      rcases List.mem_append.mp hq with hq | hq
      · exact hforms q (List.mem_append_left _ hq)
      · rcases List.mem_cons.mp hq with rfl | hq
        · exact hform
        · exact hforms q (List.mem_append_right _ (List.mem_cons_of_mem _ hq))

/-- The same along steps that are in `E` as well, where the invariant needs that; the
postcondition of the procedures has to last. -/
theorem ReachesWhen.sound {I : ω → Prop} {R G E : ω → ω → Prop} {Q : α → ω → Prop}
    (reflR : ∀ w, R w w) (trans : ∀ {a b c}, R a b → R b c → R a c) (reflG : ∀ w, G w w)
    (hGR : ∀ {w w'}, I w → G w w' → R w w') (hI : ∀ {w w'}, I w → G w w' → E w w' → I w')
    (hQ : ∀ a {w w'}, R w w' → Q a w → Q a w')
    (hstart : ∀ p, starts p → ∀ w, I w → p.Obeys I R G Q w) {c c' : Pool ω ε α}
    (hw : I c.world) (hcalls : ∀ p ∈ c.calls, p.Obeys I R G Q c.world)
    (h : ReachesWhen starts (fun w p => E w (p.step w).2) c c') :
    I c'.world ∧ ∀ p ∈ c'.calls, p.Obeys I R G Q c'.world := by
  induction h with
  | refl => exact ⟨hw, hcalls⟩
  | tail _ hstep ih =>
    obtain ⟨hinv, hobey⟩ := ih
    cases hstep with
    | start p hp =>
      refine ⟨hinv, fun q hq => ?_⟩
      rcases List.mem_cons.mp hq with rfl | hq
      · exact hstart q hp _ hinv
      · exact hobey q hq
    | act before after p hE =>
      have hp := hobey p (List.mem_append_right _ (List.mem_cons_self ..))
      obtain ⟨hG, hnext⟩ := hp.step reflR reflG hinv
      have hlater : ∀ q ∈ before ++ p :: after, q.Obeys I R G Q (p.step _).2 :=
        fun q hq => (hobey q hq).later trans hQ (hGR hinv hG)
      refine ⟨hI hinv hG hE, fun q hq => ?_⟩
      rcases List.mem_append.mp hq with hq | hq
      · exact hlater q (List.mem_append_left _ hq)
      · rcases List.mem_cons.mp hq with rfl | hq
        · exact hnext
        · exact hlater q (List.mem_append_right _ (List.mem_cons_of_mem _ hq))

/-- A step in which the pool and the procedure that acts meet a condition. -/
inductive StepUnder (starts : Process ω ε α → Prop) (ok : Pool ω ε α → Process ω ε α → Prop) :
    Pool ω ε α → Pool ω ε α → Prop
  | start {w : ω} {calls : List (Process ω ε α)} (p : Process ω ε α) (h : starts p) :
    StepUnder starts ok ⟨w, calls⟩ ⟨w, p :: calls⟩
  | act {w : ω} (before after : List (Process ω ε α)) (p : Process ω ε α)
    (h : ok ⟨w, before ++ p :: after⟩ p) :
    StepUnder starts ok ⟨w, before ++ p :: after⟩ ⟨(p.step w).2, before ++ (p.step w).1 :: after⟩

abbrev ReachesUnder (starts : Process ω ε α → Prop) (ok : Pool ω ε α → Process ω ε α → Prop) :
    Pool ω ε α → Pool ω ε α → Prop :=
  Relation.ReflTransGen (StepUnder starts ok)

/-- If the procedures start in a form `F`, which may depend on the world, and under
the condition every action keeps the invariant, its own form and those of the others,
then these hold in every pool that is reached under the condition. -/
theorem ReachesUnder.invariant {ok : Pool ω ε α → Process ω ε α → Prop} {I : ω → Prop}
    {F : ω → Process ω ε α → Prop} (hstart : ∀ w p, starts p → I w → F w p)
    (hstep : ∀ pool p, p ∈ pool.calls → I pool.world → (∀ q ∈ pool.calls, F pool.world q) →
      ok pool p → I (p.step pool.world).2 ∧ F (p.step pool.world).2 (p.step pool.world).1 ∧
        ∀ q ∈ pool.calls, F (p.step pool.world).2 q) {c c' : Pool ω ε α}
    (h : ReachesUnder starts ok c c') (hw : I c.world) (hcalls : ∀ p ∈ c.calls, F c.world p) :
    I c'.world ∧ ∀ p ∈ c'.calls, F c'.world p := by
  induction h with
  | refl => exact ⟨hw, hcalls⟩
  | tail _ hnext ih =>
    obtain ⟨hinv, hforms⟩ := ih
    cases hnext with
    | start p hp =>
      refine ⟨hinv, fun q hq => ?_⟩
      rcases List.mem_cons.mp hq with rfl | hq
      · exact hstart _ q hp hinv
      · exact hforms q hq
    | act before after p hok =>
      obtain ⟨hinv', hform, hothers⟩ :=
        hstep _ p (List.mem_append_right _ (List.mem_cons_self ..)) hinv hforms hok
      refine ⟨hinv', fun q hq => ?_⟩
      rcases List.mem_append.mp hq with hq | hq
      · exact hothers q (List.mem_append_left _ hq)
      · rcases List.mem_cons.mp hq with rfl | hq
        · exact hform
        · exact hothers q (List.mem_append_right _ (List.mem_cons_of_mem _ hq))

/-- A procedure that is not interrupted. -/
theorem Reaches.run {w : ω} (p : Process ω ε α) (calls : List (Process ω ε α)) :
    ∃ q, Reaches starts ⟨w, p :: calls⟩ ⟨(p.run w).2, q :: calls⟩ := by
  induction p generalizing w with
  | done a => exact ⟨_, .refl⟩
  | raise e => exact ⟨_, .refl⟩
  | act action next ih =>
    obtain ⟨q, hq⟩ := ih (action w).1 (w := (action w).2)
    exact ⟨q, .head (.act [] calls (.act action next)) hq⟩

/-- The next action of the call at an index. -/
def actAt (pool : Pool ω ε α) (i : Nat) : Pool ω ε α :=
  match pool.calls.drop i with
  | [] => pool
  | p :: after => ⟨(p.step pool.world).2, pool.calls.take i ++ (p.step pool.world).1 :: after⟩

theorem reaches_actAt (pool : Pool ω ε α) (i : Nat) : Reaches starts pool (pool.actAt i) := by
  rcases h : pool.calls.drop i with _ | ⟨p, after⟩
  · rw [actAt, h]
  · have hcalls : pool = ⟨pool.world, pool.calls.take i ++ p :: after⟩ := by
      rw [← h, List.take_append_drop]
    have hact : Step starts ⟨pool.world, pool.calls.take i ++ p :: after⟩ (pool.actAt i) := by
      rw [actAt, h]
      exact .act _ _ p
    rw [← hcalls] at hact
    exact .single hact

/-- Calls that have been started act in the listed order. -/
theorem reaches_schedule (order : List Nat) (pool : Pool ω ε α) :
    Reaches starts pool (order.foldl actAt pool) := by
  induction order generalizing pool with
  | nil => exact .refl
  | cons i order ih => exact (reaches_actAt pool i).trans (ih _)

theorem reaches_started {ps : List (Process ω ε α)} (h : ∀ p ∈ ps, starts p) (w : ω) :
    Reaches starts ⟨w, []⟩ ⟨w, ps⟩ := by
  induction ps with
  | nil => exact .refl
  | cons p ps ih =>
    exact (ih fun q hq => h q (List.mem_cons_of_mem _ hq)).tail (.start p (h p (List.mem_cons_self ..)))

/-- Every call that acts in the listed order moves the world along `E`. -/
def Within (E : ω → ω → Prop) : List Nat → Pool ω ε α → Prop
  | [], _ => True
  | i :: order, pool => E pool.world (pool.actAt i).world ∧ Within E order (pool.actAt i)

instance Within.decide (E : ω → ω → Prop) [DecidableRel E] :
    (order : List Nat) → (pool : Pool ω ε α) → Decidable (Within E order pool)
  | [], _ => .isTrue trivial
  | i :: order, pool =>
    have := Within.decide E order (pool.actAt i)
    inferInstanceAs (Decidable (_ ∧ _))

theorem reachesWhen_actAt {E : ω → ω → Prop} {pool : Pool ω ε α} {i : Nat}
    (hE : E pool.world (pool.actAt i).world) :
    ReachesWhen starts (fun w p => E w (p.step w).2) pool (pool.actAt i) := by
  rcases h : pool.calls.drop i with _ | ⟨p, after⟩
  · rw [actAt, h]
  · have hcalls : pool = ⟨pool.world, pool.calls.take i ++ p :: after⟩ := by
      rw [← h, List.take_append_drop]
    have hact : StepWhen starts (fun w p => E w (p.step w).2)
        ⟨pool.world, pool.calls.take i ++ p :: after⟩ (pool.actAt i) := by
      rw [actAt, h] at hE ⊢
      exact .act _ _ p hE
    rw [← hcalls] at hact
    exact .single hact

theorem reachesWhen_schedule {E : ω → ω → Prop} {order : List Nat} {pool : Pool ω ε α}
    (h : Within E order pool) :
    ReachesWhen starts (fun w p => E w (p.step w).2) pool (order.foldl actAt pool) := by
  induction order generalizing pool with
  | nil => exact .refl
  | cons i order ih => exact (reachesWhen_actAt h.1).trans (ih h.2)

theorem reachesWhen_started {ok : ω → Process ω ε α → Prop} {ps : List (Process ω ε α)}
    (h : ∀ p ∈ ps, starts p) (w : ω) : ReachesWhen starts ok ⟨w, []⟩ ⟨w, ps⟩ := by
  induction ps with
  | nil => exact .refl
  | cons p ps ih =>
    exact (ih fun q hq => h q (List.mem_cons_of_mem _ hq)).tail (.start p (h p (List.mem_cons_self ..)))

/-- The world after the listed procedures, one after the other. -/
def sequence : List (Process ω ε α) → ω → ω
  | [], w => w
  | p :: ps, w => sequence ps (p.run w).2

theorem reaches_sequence {ps : List (Process ω ε α)} (h : ∀ p ∈ ps, starts p) (w : ω)
    (calls : List (Process ω ε α)) :
    ∃ calls', Reaches starts ⟨w, calls⟩ ⟨sequence ps w, calls'⟩ := by
  induction ps generalizing w calls with
  | nil => exact ⟨calls, .refl⟩
  | cons p ps ih =>
    have hrun : ∃ q, Reaches starts ⟨w, p :: calls⟩ ⟨(p.run w).2, q :: calls⟩ := Reaches.run p calls
    obtain ⟨q, hq⟩ := hrun
    obtain ⟨calls', hrest⟩ := ih (fun q hq => h q (List.mem_cons_of_mem _ hq)) (p.run w).2 (q :: calls)
    exact ⟨calls', .head (.start p (h p (List.mem_cons_self ..))) (hq.trans hrest)⟩

end Pool

end Transact
