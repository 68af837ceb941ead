/-
Loops that go on until their body answers no (`while step(): pass`).

The body sees the number of its turn, so that what it reads from its
surroundings may differ from turn to turn.

* `loop` — the loop with fuel; `stateAt` — the state before a turn;
* `Reached`, `EndsAt` — the turns the loop comes to, and the one it ends with;
* `loop_eq_ok` — the loop returns if and only if it has a last turn;
* `exists_endsAt` — a loop whose turns do not raise and from some turn on
  decrease a measure has a last turn.
-/
import Mathlib.Data.Nat.Init
import Mathlib.Tactic.Common

namespace Transact

variable {σ ε : Type} (step : ℕ → σ → Except ε Bool × σ)

/-- The loop from its `i`-th turn on, for at most `fuel` turns. -/
def loop : ℕ → ℕ → σ → Option (Except ε Unit × σ)
  | 0, _, _ => none
  | fuel + 1, i, s =>
    match step i s with
    | (.ok true, s') => loop fuel (i + 1) s'
    | (.ok false, s') => some (.ok (), s')
    | (.error e, s') => some (.error e, s')

/-- The state before the `i`-th turn. -/
def stateAt (s : σ) : ℕ → σ
  | 0 => s
  | i + 1 => (step i (stateAt s i)).2

/-- What the `i`-th turn answers. -/
def answerAt (s : σ) (i : ℕ) : Except ε Bool := (step i (stateAt step s i)).1

/-- The loop comes to its `i`-th turn. -/
def Reached (s : σ) (i : ℕ) : Prop := ∀ j < i, answerAt step s j = .ok true

/-- The loop ends normally with its `n`-th turn. -/
structure EndsAt (s : σ) (n : ℕ) : Prop where
  reached : Reached step s n
  answer : answerAt step s n = .ok false

variable {step} {s s' : σ} {i j n : ℕ}

theorem Reached.mono (h : Reached step s n) (hi : i ≤ n) : Reached step s i :=
  fun j hj => h j (by omega)

theorem Reached.succ (h : Reached step s n) (ha : answerAt step s n = .ok true) :
    Reached step s (n + 1) := by
  intro j hj
  rcases Nat.lt_succ_iff_lt_or_eq.mp hj with hlt | rfl
  · exact h j hlt
  · exact ha

/-- The loop has one last turn. -/
theorem EndsAt.unique (h : EndsAt step s i) (h' : EndsAt step s j) : i = j := by
  have hne : ∀ {a b : ℕ}, EndsAt step s a → EndsAt step s b → ¬a < b := by
    intro a b ha hb hlt
    have htrue := hb.reached a hlt
    rw [ha.answer] at htrue
    cases htrue
  have hij := hne h h'
  have hji := hne h' h
  omega

/-- A loop that returned from its `i`-th turn on had a last turn. -/
theorem exists_of_loop {fuel : ℕ} (h : loop step fuel i (stateAt step s i) = some (.ok (), s')) :
    ∃ n ≥ i, (∀ j, i ≤ j → j < n → answerAt step s j = .ok true) ∧
      answerAt step s n = .ok false := by
  induction fuel generalizing i with
  | zero => cases h
  | succ fuel ih =>
    have hnext : stateAt step s (i + 1) = (step i (stateAt step s i)).2 := rfl
    have hans : answerAt step s i = (step i (stateAt step s i)).1 := rfl
    rw [loop] at h
    split at h
    · rename_i heq
      rw [heq] at hnext hans
      obtain ⟨n, hn, hbefore, hlast⟩ := ih (i := i + 1) (by rw [hnext]; exact h)
      refine ⟨n, by omega, fun j hij hjn => ?_, hlast⟩
      rcases Nat.lt_or_eq_of_le hij with hlt | rfl
      · exact hbefore j hlt hjn
      · exact hans
    · rename_i heq
      rw [heq] at hans
      exact ⟨i, Nat.le_refl i, fun j hij hji => absurd hji (by omega), hans⟩
    · cases h

/-- With enough fuel, the loop returns from every turn up to its last. -/
theorem EndsAt.loop_eq (h : EndsAt step s n) {k : ℕ} (hi : i + k = n) :
    loop step (k + 1) i (stateAt step s i) = some (.ok (), stateAt step s (n + 1)) := by
  induction k generalizing i with
  | zero =>
    obtain rfl : i = n := hi
    have hans : (step i (stateAt step s i)).1 = .ok false := h.answer
    have hpair : step i (stateAt step s i) = (.ok false, stateAt step s (i + 1)) :=
      Prod.ext hans rfl
    rw [loop, hpair]
  | succ k ih =>
    have hans : (step i (stateAt step s i)).1 = .ok true := h.reached i (by omega)
    have hpair : step i (stateAt step s i) = (.ok true, stateAt step s (i + 1)) :=
      Prod.ext hans rfl
    rw [loop, hpair]
    exact ih (by omega)

/-- The loop returns if and only if it has a last turn. -/
theorem loop_eq_ok : (∃ fuel s', loop step fuel 0 s = some (.ok (), s')) ↔ ∃ n, EndsAt step s n := by
  constructor
  · rintro ⟨fuel, s', h⟩
    obtain ⟨n, -, hbefore, hlast⟩ := exists_of_loop (i := 0) h
    exact ⟨n, fun j hj => hbefore j (Nat.zero_le j) hj, hlast⟩
  · rintro ⟨n, h⟩
    exact ⟨n + 1, stateAt step s (n + 1), h.loop_eq (i := 0) (Nat.zero_add n)⟩

/-- A loop that neither raises nor ends comes to every turn. -/
theorem reached_of_not_endsAt (hquiet : ∀ i, Reached step s i → ∃ b, answerAt step s i = .ok b)
    (hends : ∀ n, ¬EndsAt step s n) (i : ℕ) : Reached step s i := by
  induction i with
  | zero => exact fun j hj => absurd hj (Nat.not_lt_zero j)
  | succ i ih =>
    obtain ⟨b, hb⟩ := hquiet i ih
    cases b with
    | true => exact ih.succ hb
    | false => exact absurd ⟨ih, hb⟩ (hends i)

/-- A loop whose turns do not raise, and of which from some turn on all that
go on decrease a measure, has a last turn. -/
theorem exists_endsAt (m : σ → ℕ) (hquiet : ∀ i, Reached step s i → ∃ b, answerAt step s i = .ok b)
    (N : ℕ) (hdecreases : ∀ i, N ≤ i → Reached step s i → answerAt step s i = .ok true →
      m (stateAt step s (i + 1)) < m (stateAt step s i)) : ∃ n, EndsAt step s n := by
  by_contra hends
  have hreached := reached_of_not_endsAt hquiet fun n h => hends ⟨n, h⟩
  have hbound : ∀ k, m (stateAt step s (N + k)) + k ≤ m (stateAt step s N) := by
    intro k
    induction k with
    | zero => exact Nat.le_refl _
    | succ k ih =>
      have hlt := hdecreases (N + k) (by omega) (hreached _) (hreached _ _ (Nat.lt_succ_self _))
      have heq : N + (k + 1) = N + k + 1 := rfl
      rw [heq]
      omega
  have := hbound (m (stateAt step s N) + 1)
  omega

/-- A relation that every turn keeps holds between the states before any two
turns. -/
theorem stateAt_relates {R : σ → σ → Prop} (refl : ∀ s, R s s)
    (trans : ∀ {a b c}, R a b → R b c → R a c) (hij : i ≤ j)
    (h : ∀ k, i ≤ k → k < j → R (stateAt step s k) (stateAt step s (k + 1))) :
    R (stateAt step s i) (stateAt step s j) := by
  induction j, hij using Nat.le_induction with
  | base => exact refl _
  | succ j hij ih =>
    exact trans (ih fun k hk hkj => h k hk (by omega)) (h j hij (Nat.lt_succ_self j))

end Transact
