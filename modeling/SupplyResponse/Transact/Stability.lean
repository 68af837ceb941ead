/-
Reads that later commits cannot invalidate.

`Stable R p`: the program `p` only reads, and an answer that it returns from a
state it returns from every state that follows along `R`.

* `Stable.bind`, `Stable.ite`, … — sequences of stable reads are stable;
* `stable_select` — a query whose answer `R` keeps.
-/
import SupplyResponse.Transact.Program

namespace Transact

namespace Prog

variable {σ κ ε α β : Type} {R : σ → σ → Prop}

/-- A read whose answer lasts along `R`. -/
structure Stable (R : σ → σ → Prop) (p : Prog σ κ ε α) : Prop where
  readOnly : p.ReadOnly
  lasts : ∀ {s s' : σ} {a : α}, R s s' → p.Returns s a s → p.Returns s' a s'

theorem stable_done (a : α) : Stable R (done a : Prog σ κ ε α) :=
  ⟨readOnly_done a, fun _ h => returns_done.mpr ⟨(returns_done.mp h).1, rfl⟩⟩

theorem stable_raise (e : ε) : Stable R (raise e : Prog σ κ ε α) :=
  ⟨readOnly_raise e, fun _ h => absurd h returns_raise⟩

theorem stable_require (c : Prop) [Decidable c] (e : ε) :
    Stable R (require c e : Prog σ κ ε Unit) :=
  ⟨readOnly_require c e, fun _ h => returns_require.mpr ⟨(returns_require.mp h).1, rfl⟩⟩

theorem stable_orRaise (e : ε) (o : Option α) : Stable R (orRaise e o : Prog σ κ ε α) :=
  ⟨readOnly_orRaise e o, fun _ h => returns_orRaise.mpr ⟨(returns_orRaise.mp h).1, rfl⟩⟩

theorem stable_select {f : σ → α} (h : ∀ {s s'}, R s s' → f s' = f s) :
    Stable R (select f : Prog σ κ ε α) := by
  refine ⟨readOnly_select f, fun hR hs => ?_⟩
  rw [returns_select, h hR]
  exact ⟨(returns_select.mp hs).1, rfl⟩

theorem Stable.bind {p : Prog σ κ ε α} {f : α → Prog σ κ ε β} (hp : Stable R p)
    (hf : ∀ a, Stable R (f a)) : Stable R (p >>= f) := by
  refine ⟨hp.readOnly.bind fun a => (hf a).readOnly, fun hR h => ?_⟩
  obtain ⟨a, ha, hb⟩ := hp.readOnly.returns_bind.mp h
  exact hp.readOnly.returns_bind.mpr ⟨a, hp.lasts hR ha, (hf a).lasts hR hb⟩

theorem Stable.map {p : Prog σ κ ε α} (f : α → β) (hp : Stable R p) : Stable R (f <$> p) :=
  hp.bind fun a => stable_done (f a)

theorem Stable.ite {c : Prop} [Decidable c] {p q : Prog σ κ ε α} (hp : Stable R p)
    (hq : Stable R q) : Stable R (if c then p else q) := by
  split
  · exact hp
  · exact hq

end Prog

end Transact
