/-
Leases that may be taken over once they have expired.

A history lists, newest first, the grants of a lease on a key, and when an owner
committed under its lease or gave it back.

* `leaseOf` — the lease on a key after a history;
* `Holds` — an owner was granted a lease, and has neither committed nor given it
  back: what the owner itself knows, which does not see a takeover;
* `Lawful` — the histories by a clock in which a lease is granted over an
  expired one only, to a new owner, and committed by the owner of the lease;
* `Lawful.exclusive` — no two owners hold unexpired leases on one key;
* `Lawful.commits_le_one` — an owner commits at most once.
-/
import Mathlib.Order.Lattice
import Mathlib.Tactic.Common

namespace Transact

/-- An event of a lease on a key of type `κ`, for owners of type `ι`. -/
inductive LeaseEvent (κ ι τ : Type) : Type
  | granted (key : κ) (owner : ι) (asked expires : τ)
  | committed (key : κ) (owner : ι)
  | released (key : κ) (owner : ι)
  deriving DecidableEq

section Histories

variable {κ ι τ : Type} [DecidableEq κ] [DecidableEq ι]

/-- A lease given back, if it is the owner's. -/
def giveBack (owner : ι) : Option (ι × τ) → Option (ι × τ)
  | some (i, e) => if i = owner then none else some (i, e)
  | none => none

/-- The lease on a key after a history: its owner and when it expires. -/
def leaseOf (k : κ) : List (LeaseEvent κ ι τ) → Option (ι × τ)
  | [] => none
  | .granted key owner _ expires :: log => if key = k then some (owner, expires) else leaseOf k log
  | .committed key owner :: log | .released key owner :: log =>
    if key = k then giveBack owner (leaseOf k log) else leaseOf k log

/-- A lease until `e` was granted to `i`, which has not ended it since. -/
def Holds (k : κ) (i : ι) (e : τ) : List (LeaseEvent κ ι τ) → Prop
  | [] => False
  | .granted key owner _ expires :: log => (key = k ∧ owner = i ∧ expires = e) ∨ Holds k i e log
  | .committed key owner :: log | .released key owner :: log =>
    ¬(key = k ∧ owner = i) ∧ Holds k i e log

/-- How often an owner committed. -/
def commitsOf (i : ι) : List (LeaseEvent κ ι τ) → ℕ
  | [] => 0
  | .committed _ owner :: log => (if owner = i then 1 else 0) + commitsOf i log
  | .granted .. :: log | .released .. :: log => commitsOf i log

/-- A lease was granted to `i`. -/
def GrantedTo (i : ι) (log : List (LeaseEvent κ ι τ)) : Prop :=
  ∃ k a e, LeaseEvent.granted k i a e ∈ log

variable {k : κ} {i owner : ι} {e : τ} {log : List (LeaseEvent κ ι τ)}

theorem giveBack_eq_some {l : Option (ι × τ)} :
    giveBack owner l = some (i, e) ↔ l = some (i, e) ∧ i ≠ owner := by
  rcases l with _ | ⟨j, t⟩
  · simp [giveBack]
  · show (if j = owner then none else some (j, t)) = some (i, e) ↔ _
    by_cases hj : j = owner
    · rw [if_pos hj]
      constructor
      · intro h
        cases h
      · rintro ⟨h, hne⟩
        cases h
        exact absurd hj hne
    · rw [if_neg hj]
      constructor
      · intro h
        cases h
        exact ⟨rfl, hj⟩
      · exact And.left

/-- The lease on a key was granted. -/
theorem granted_of_leaseOf (h : leaseOf k log = some (i, e)) :
    ∃ a, LeaseEvent.granted k i a e ∈ log := by
  induction log with
  | nil => cases h
  | cons event log ih =>
    have htail : leaseOf k log = some (i, e) → ∃ a, LeaseEvent.granted k i a e ∈ event :: log := by
      intro h
      obtain ⟨a, ha⟩ := ih h
      exact ⟨a, List.mem_cons_of_mem _ ha⟩
    cases event with
    | granted key owner asked expires =>
      rw [leaseOf] at h
      split at h
      · rename_i hk
        obtain ⟨rfl, rfl⟩ := Prod.mk.inj (Option.some.inj h)
        exact ⟨asked, hk ▸ List.mem_cons_self ..⟩
      · exact htail h
    | committed key owner =>
      rw [leaseOf] at h
      split at h
      · exact htail (giveBack_eq_some.mp h).1
      · exact htail h
    | released key owner =>
      rw [leaseOf] at h
      split at h
      · exact htail (giveBack_eq_some.mp h).1
      · exact htail h

end Histories

section Clock

variable {κ ι τ : Type} [DecidableEq κ] [DecidableEq ι] [LinearOrder τ]

/-- The histories of leases by a clock that does not go back. -/
inductive Lawful : τ → List (LeaseEvent κ ι τ) → Prop
  | start (now : τ) : Lawful now []
  | tick {now later : τ} {log : List (LeaseEvent κ ι τ)} (h : Lawful now log) (hle : now ≤ later) :
    Lawful later log
  | granted {now asked expires : τ} {k : κ} {owner : ι} {log : List (LeaseEvent κ ι τ)}
    (h : Lawful now log) (hasked : asked ≤ now) (hnew : ¬GrantedTo owner log)
    (hexpired : ∀ i e, leaseOf k log = some (i, e) → e < asked) :
    Lawful now (.granted k owner asked expires :: log)
  | committed {now e : τ} {k : κ} {owner : ι} {log : List (LeaseEvent κ ι τ)} (h : Lawful now log)
    (howned : leaseOf k log = some (owner, e)) : Lawful now (.committed k owner :: log)
  | released {now : τ} {k : κ} {owner : ι} {log : List (LeaseEvent κ ι τ)} (h : Lawful now log) :
    Lawful now (.released k owner :: log)

namespace Lawful

variable {now : τ} {k k' : κ} {i i' : ι} {a a' e e' : τ} {log : List (LeaseEvent κ ι τ)}

/-- A lease that an owner has not ended is the lease on its key, or has expired. -/
theorem holds (h : Lawful now log) (hh : Holds k i e log) :
    leaseOf k log = some (i, e) ∨ e < now := by
  induction h with
  | start now => cases hh
  | tick h hle ih => exact (ih hh).imp_right fun hlt => lt_of_lt_of_le hlt hle
  | @granted now asked expires key owner log h hasked hnew hexpired ih =>
    rw [leaseOf]
    rcases hh with ⟨rfl, rfl, rfl⟩ | hh
    · exact .inl (if_pos rfl)
    · rcases ih hh with hlease | hlt
      · by_cases hk : key = k
        · subst hk
          exact .inr (lt_of_lt_of_le (hexpired i e hlease) hasked)
        · exact .inl (by rw [if_neg hk, hlease])
      · exact .inr hlt
  | @committed now t key owner log h howned ih =>
    obtain ⟨hne, hh⟩ := hh
    rw [leaseOf]
    refine (ih hh).imp_left fun hlease => ?_
    split
    · exact giveBack_eq_some.mpr ⟨hlease, fun hi => hne ⟨‹_›, hi.symm⟩⟩
    · exact hlease
  | @released now key owner log h ih =>
    obtain ⟨hne, hh⟩ := hh
    rw [leaseOf]
    refine (ih hh).imp_left fun hlease => ?_
    split
    · exact giveBack_eq_some.mpr ⟨hlease, fun hi => hne ⟨‹_›, hi.symm⟩⟩
    · exact hlease

/-- No two owners hold unexpired leases on one key. -/
theorem exclusive (h : Lawful now log) (hi : Holds k i e log) (he : now ≤ e)
    (hi' : Holds k i' e' log) (he' : now ≤ e') : i = i' := by
  have hlease := (h.holds hi).resolve_right (not_lt_of_ge he)
  have hlease' := (h.holds hi').resolve_right (not_lt_of_ge he')
  rw [hlease] at hlease'
  exact congrArg Prod.fst (Option.some.inj hlease')

/-- A lease is granted over an expired one only. -/
theorem expired_of_granted {newer older : List (LeaseEvent κ ι τ)} (h : Lawful now log)
    (hlog : log = newer ++ .granted k i a e :: older) (hlease : leaseOf k older = some (i', e')) :
    e' < a := by
  induction h generalizing newer with
  | start now => cases newer <;> cases hlog
  | tick h hle ih => exact ih hlog
  | granted h hasked hnew hexpired ih =>
    cases newer with
    | nil =>
      cases hlog
      exact hexpired i' e' hlease
    | cons event newer => exact ih (List.cons.inj hlog).2
  | committed h howned ih =>
    cases newer with
    | nil => cases hlog
    | cons event newer => exact ih (List.cons.inj hlog).2
  | released h ih =>
    cases newer with
    | nil => cases hlog
    | cons event newer => exact ih (List.cons.inj hlog).2

/-- An owner has one grant. -/
theorem granted_unique (h : Lawful now log) (hg : LeaseEvent.granted k i a e ∈ log)
    (hg' : LeaseEvent.granted k' i a' e' ∈ log) : k = k' := by
  induction h with
  | start now => cases hg
  | tick h hle ih => exact ih hg hg'
  | granted h hasked hnew hexpired ih =>
    rcases List.mem_cons.mp hg with heq | hold <;> rcases List.mem_cons.mp hg' with heq' | hold'
    · cases heq
      cases heq'
      rfl
    · cases heq
      exact absurd ⟨k', a', e', hold'⟩ hnew
    · cases heq'
      exact absurd ⟨k, a, e, hold⟩ hnew
    · exact ih hold hold'
  | committed h howned ih =>
    exact ih ((List.mem_cons.mp hg).resolve_left nofun) ((List.mem_cons.mp hg').resolve_left nofun)
  | released h ih =>
    exact ih ((List.mem_cons.mp hg).resolve_left nofun) ((List.mem_cons.mp hg').resolve_left nofun)

/-- Who never got a lease has not committed. -/
theorem commitsOf_eq_zero (h : Lawful now log) (hi : ¬GrantedTo i log) : commitsOf i log = 0 := by
  have hcons : ∀ {event : LeaseEvent κ ι τ} {log}, ¬GrantedTo i (event :: log) →
      ¬GrantedTo i log := by
    rintro event log hnot ⟨k, a, e, hg⟩
    exact hnot ⟨k, a, e, List.mem_cons_of_mem _ hg⟩
  induction h with
  | start now => rfl
  | tick h hle ih => exact ih hi
  | granted h hasked hnew hexpired ih => exact ih (hcons hi)
  | @committed now t key owner log h howned ih =>
    obtain ⟨a, hg⟩ := granted_of_leaseOf howned
    have hne : owner ≠ i := by
      rintro rfl
      exact hcons hi ⟨key, a, t, hg⟩
    rw [commitsOf, if_neg hne, ih (hcons hi)]
  | released h ih => exact ih (hcons hi)

/-- The owner of a lease has not committed under it. -/
theorem commitsOf_of_leaseOf (h : Lawful now log) :
    commitsOf i log ≤ 1 ∧ ∀ k e, leaseOf k log = some (i, e) → commitsOf i log = 0 := by
  induction h with
  | start now => exact ⟨Nat.zero_le 1, nofun⟩
  | tick h hle ih => exact ih
  | @granted now asked expires key owner log h hasked hnew hexpired ih =>
    refine ⟨ih.1, fun k e hlease => ?_⟩
    rw [leaseOf] at hlease
    split at hlease
    · obtain ⟨rfl, rfl⟩ := Prod.mk.inj (Option.some.inj hlease)
      exact h.commitsOf_eq_zero hnew
    · exact ih.2 k e hlease
  | @committed now t key owner log h howned ih =>
    by_cases hi : owner = i
    · subst hi
      have hzero := ih.2 key t howned
      refine ⟨Nat.le_of_eq (by rw [commitsOf, if_pos rfl, hzero]), fun k e hlease => ?_⟩
      -- the lease was given back, and an owner has no second one
      exfalso
      rw [leaseOf] at hlease
      split at hlease
      · exact (giveBack_eq_some.mp hlease).2 rfl
      · obtain ⟨a, hg⟩ := granted_of_leaseOf howned
        obtain ⟨a', hg'⟩ := granted_of_leaseOf hlease
        exact absurd (h.granted_unique hg hg') ‹_›
    · rw [commitsOf, if_neg hi, Nat.zero_add]
      refine ⟨ih.1, fun k e hlease => ?_⟩
      rw [leaseOf] at hlease
      split at hlease
      · exact ih.2 k e (giveBack_eq_some.mp hlease).1
      · exact ih.2 k e hlease
  | @released now key owner log h ih =>
    refine ⟨ih.1, fun k e hlease => ?_⟩
    rw [leaseOf] at hlease
    split at hlease
    · exact ih.2 k e (giveBack_eq_some.mp hlease).1
    · exact ih.2 k e hlease

/-- An owner commits at most once. -/
theorem commits_le_one (h : Lawful now log) (i : ι) : commitsOf i log ≤ 1 :=
  h.commitsOf_of_leaseOf.1

end Lawful

end Clock

end Transact
