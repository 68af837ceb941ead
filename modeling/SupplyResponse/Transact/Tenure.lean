/-
Tenures: holders with at most one current item each.

An item is opened once, by one holder, and is live from then on until its
holder replaces it.

* `Tenure.replace` — a holder ends its current item and may open a fresh one;
* `Tenure.Coherent` — the live items are exactly the current ones;
* `Coherent.replace` — replacement keeps that;
* `Coherent.unique` — a holder has at most one live item.
-/
import Mathlib.Logic.Function.Basic
import Mathlib.Tactic.Common

namespace Transact

/-- The current item of every holder, and for every opened item its holder and
whether it is live. -/
@[ext] structure Tenure (γ ρ : Type) where
  current : γ → Option ρ
  opened : ρ → Option (γ × Bool)

namespace Tenure

variable {γ ρ : Type} [DecidableEq γ] [DecidableEq ρ]

/-- `c` ends what it holds and holds `next`. -/
def replace (t : Tenure γ ρ) (c : γ) (next : Option ρ) : Tenure γ ρ where
  current c' := if c' = c then next else t.current c'
  opened r :=
    if next = some r then some (c, true)
    else if t.current c = some r then some (c, false)
    else t.opened r

/-- An item is live with a holder exactly when the holder has it. -/
def Coherent (t : Tenure γ ρ) : Prop :=
  ∀ r c, t.opened r = some (c, true) ↔ t.current c = some r

namespace Coherent

variable {t : Tenure γ ρ}

omit [DecidableEq γ] [DecidableEq ρ] in
/-- An item is current with one holder only. -/
theorem holder_unique (h : t.Coherent) {r : ρ} {c c' : γ} (hc : t.current c = some r)
    (hc' : t.current c' = some r) : c = c' := by
  have := ((h r c).mpr hc).symm.trans ((h r c').mpr hc')
  exact congrArg Prod.fst (Option.some.inj this)

omit [DecidableEq γ] [DecidableEq ρ] in
/-- A holder has at most one live item. -/
theorem unique (h : t.Coherent) {r r' : ρ} {c : γ} (hr : t.opened r = some (c, true))
    (hr' : t.opened r' = some (c, true)) : r = r' :=
  Option.some.inj (((h r c).mp hr).symm.trans ((h r' c).mp hr'))

theorem replace (h : t.Coherent) (c : γ) {next : Option ρ}
    (fresh : ∀ r, next = some r → t.opened r = none) : (t.replace c next).Coherent := by
  intro r c'
  -- a fresh item is nobody's current item
  have hnot : next = some r → ∀ c'', t.current c'' ≠ some r := by
    intro hn c'' hc
    cases (fresh r hn).symm.trans ((h r c'').mpr hc)
  show (if next = some r then some (c, true) else if t.current c = some r then some (c, false)
    else t.opened r) = some (c', true) ↔ (if c' = c then next else t.current c') = some r
  by_cases hc : c' = c
  · subst hc
    rw [if_pos rfl]
    by_cases hn : next = some r
    · simp [hn]
    · rw [if_neg hn]
      by_cases hold : t.current c' = some r
      · simp [hold, hn]
      · simp only [if_neg hold, hn, iff_false]
        exact fun ho => hold ((h r c').mp ho)
  · rw [if_neg hc]
    by_cases hn : next = some r
    · simp only [if_pos hn, Option.some.injEq, Prod.mk.injEq, and_true, hnot hn c', iff_false]
      exact fun hcc => hc hcc.symm
    · rw [if_neg hn]
      by_cases hold : t.current c = some r
      · simp only [if_pos hold, Option.some.injEq, Prod.mk.injEq, Bool.false_eq_true, and_false,
          false_iff]
        exact fun hcur => hc (h.holder_unique hcur hold)
      · rw [if_neg hold]
        exact h r c'

end Coherent

end Tenure

end Transact
