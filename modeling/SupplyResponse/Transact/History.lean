/-
Histories of committed units of work.

A family `program : ι → Prog σ κ ε (Exit α)` of units of work runs on one
database, each of them alone.  Only commits change the database, so a history
is a sequence of committed steps.

* `Step`, `Run` — one commit, and any number of them;
* `Run.invariant` — what every commit keeps holds after every run;
* `Run.relates` — what every commit does along a preorder, a run does;
* `Run.first` — where a fact became true;
* `history` — the database after a list of units of work, executed one by one.
-/
import Mathlib.Logic.Relation
import SupplyResponse.Transact.Program

namespace Transact

variable {σ κ ε ι α β : Type}

/-- The unit of work with its answer forgotten. -/
def Exit.forget : Exit α → Exit Unit
  | .commit _ => .commit ()
  | .rollback _ => .rollback ()

namespace Prog

/-- A unit of work of which only the effect matters. -/
def effect (p : Prog σ κ ε (Exit α)) : Prog σ κ ε (Exit Unit) := Exit.forget <$> p

theorem commits_effect {p : Prog σ κ ε (Exit α)} {s s' : σ} {u : Unit} :
    p.effect.Commits s u s' ↔ ∃ a, p.Commits s a s' := by
  unfold effect Commits
  rw [returns_map]
  constructor
  · rintro ⟨⟨a⟩ | ⟨a⟩, h, heq⟩
    · exact ⟨a, h⟩
    · cases heq
  · rintro ⟨a, h⟩
    exact ⟨.commit a, h, rfl⟩

theorem Writes.effect {P : σ → List κ → (σ → σ) → Prop} {p : Prog σ κ ε (Exit α)}
    (h : p.Writes P) : p.effect.Writes P :=
  h.map Exit.forget

end Prog

/-- One committed unit of work of the family. -/
def Step (program : ι → Prog σ κ ε (Exit α)) (s s' : σ) : Prop :=
  ∃ i a, (program i).Commits s a s'

/-- A history of commits. -/
abbrev Run (program : ι → Prog σ κ ε (Exit α)) : σ → σ → Prop :=
  Relation.ReflTransGen (Step program)

namespace Run

variable {program : ι → Prog σ κ ε (Exit α)} {s s' : σ}

/-- What every commit keeps holds after every run. -/
theorem invariant {I : σ → Prop} (step : ∀ {s s'}, I s → Step program s s' → I s')
    (h : Run program s s') (hs : I s) : I s' := by
  induction h with
  | refl => exact hs
  | tail _ hstep ih => exact step ih hstep

/-- Along a run the database moves in every preorder in which commits move it. -/
theorem relates {R : σ → σ → Prop} (refl : ∀ s, R s s)
    (trans : ∀ {a b c}, R a b → R b c → R a c)
    (step : ∀ {s s'}, Step program s s' → R s s') (h : Run program s s') : R s s' := by
  induction h with
  | refl => exact refl _
  | tail _ hstep ih => exact trans ih (step hstep)

/-- A fact that was false at the beginning and is true at the end became true
by one commit. -/
theorem first {P : σ → Prop} (h : Run program s s') (hs : ¬P s) (hs' : P s') :
    ∃ s₁ s₂, Run program s s₁ ∧ Step program s₁ s₂ ∧ Run program s₂ s' ∧ ¬P s₁ ∧ P s₂ := by
  induction h with
  | refl => exact absurd hs' hs
  | @tail b c hrun hstep ih =>
    by_cases hb : P b
    · obtain ⟨s₁, s₂, h₁, h₂, h₃, hn, hp⟩ := ih hb
      exact ⟨s₁, s₂, h₁, h₂, h₃.tail hstep, hn, hp⟩
    · exact ⟨b, c, hrun, hstep, .refl, hb, hs'⟩

end Run

/-- The database after the listed units of work, committed or not. -/
def history (program : ι → Prog σ κ ε (Exit α)) : List ι → σ → σ
  | [], s => s
  | i :: is, s => history program is ((program i).transact s).2

/-- A unit of work that does not commit leaves no trace in a run. -/
theorem Run.transact {program : ι → Prog σ κ ε (Exit α)} (i : ι) (s : σ) :
    Run program s ((program i).transact s).2 := by
  rcases (program i).transact_cases s with h | ⟨a, h⟩
  · rw [h]
  · exact .single ⟨i, a, h⟩

theorem Run.history (program : ι → Prog σ κ ε (Exit α)) (is : List ι) (s : σ) :
    Run program s (history program is s) := by
  induction is generalizing s with
  | nil => exact .refl
  | cons i is ih => exact (Run.transact i s).trans (ih _)

end Transact
