/-
Pointers and counters that rule out an unnoticed return.

* `MovesFresh` — a pointer is kept, is cleared, or moves to a name that nothing has yet;
  along a chain of such steps it never comes back to a known name;
* `Clocks` — a counter does not fall, and where it stands still, so does the value that
  it covers; between two equal readings of the counter the value was the same throughout.
-/
import Mathlib.Algebra.Order.Group.Nat
import Mathlib.Tactic.Common

namespace Transact

variable {σ ν α : Type}

/-! ### Pointers -/

/-- Known names stay known, and the pointer moves to unknown names only. -/
structure MovesFresh (known : σ → ν → Prop) (pointer : σ → Option ν) (s s' : σ) : Prop where
  stays : ∀ {x}, known s x → known s' x
  moves : ∀ {x}, pointer s' = some x → pointer s = some x ∨ ¬known s x

namespace MovesFresh

variable {known : σ → ν → Prop} {pointer : σ → Option ν} {s s' s'' : σ}

theorem refl (s : σ) : MovesFresh known pointer s s := ⟨id, .inl⟩

theorem trans (h : MovesFresh known pointer s s') (h' : MovesFresh known pointer s' s'') :
    MovesFresh known pointer s s'' where
  stays hx := h'.stays (h.stays hx)
  moves hx := by
    rcases h'.moves hx with hx' | hunknown
    · exact h.moves hx'
    · exact .inr fun hknown => hunknown (h.stays hknown)

theorem of_eq (hknown : ∀ {x}, known s x → known s' x) (h : pointer s' = pointer s) :
    MovesFresh known pointer s s' :=
  ⟨hknown, fun hx => .inl (h ▸ hx)⟩

theorem of_none (hknown : ∀ {x}, known s x → known s' x) (h : pointer s' = none) :
    MovesFresh known pointer s s' :=
  ⟨hknown, fun hx => by rw [h] at hx; cases hx⟩

/-- A pointer to a known name pointed there all along. -/
theorem pointed (h : MovesFresh known pointer s s') {x : ν} (hx : known s x)
    (hpoints : pointer s' = some x) : pointer s = some x :=
  (h.moves hpoints).resolve_right (not_not_intro hx)

end MovesFresh

/-! ### Counters -/

/-- The counter rises, or the value is what it was. -/
structure Clocks (counter : σ → ℕ) (value : σ → α) (s s' : σ) : Prop where
  le : counter s ≤ counter s'
  same : counter s' = counter s → value s' = value s

namespace Clocks

variable {counter : σ → ℕ} {value : σ → α} {s s' s'' : σ}

theorem refl (s : σ) : Clocks counter value s s := ⟨le_rfl, fun _ => rfl⟩

theorem of_lt (h : counter s < counter s') : Clocks counter value s s' :=
  ⟨h.le, fun heq => absurd heq h.ne'⟩

theorem of_eq (hcounter : counter s' = counter s) (hvalue : value s' = value s) :
    Clocks counter value s s' :=
  ⟨hcounter.ge, fun _ => hvalue⟩

theorem trans (h : Clocks counter value s s') (h' : Clocks counter value s' s'') :
    Clocks counter value s s'' where
  le := h.le.trans h'.le
  same heq := by
    have hle := h.le
    have hle' := h'.le
    have hmid : counter s' = counter s := by omega
    have hend : counter s'' = counter s' := by omega
    exact (h'.same hend).trans (h.same hmid)

/-- Between two equal readings nothing happened. -/
theorem between (h : Clocks counter value s s') (h' : Clocks counter value s' s'')
    (heq : counter s'' = counter s) : counter s' = counter s ∧ value s' = value s := by
  have hle := h.le
  have hle' := h'.le
  have hmid : counter s' = counter s := by omega
  exact ⟨hmid, h.same hmid⟩

end Clocks

end Transact
