/-
Procedures on a part of the world, and procedures that own tokens.

* `Process.onPart` — a procedure on a part of a larger world, which it reads by `get`
  and stores by `put`; `step_onPart_transaction_cases` is the step of a unit of work;
* `Process.Quiet` — no action of the procedure changes the world;
* `Pool.Owned` — every call has its form, and no two calls own the same token;
* `Pool.Reaches.owned` — this holds in every pool that is reached, if a call gains
  only tokens that nobody owns, and its actions keep the forms of the calls that own
  other tokens than it does.
-/
import SupplyResponse.Transact.Process

namespace Transact

namespace Process

variable {σ κ ω ε α β : Type}

/-! ### A part of the world -/

section Over

variable (get : ω → σ) (put : ω → σ → ω)

/-- A procedure on the part of the world that `get` reads. -/
def onPart : Process σ ε α → Process ω ε α
  | done a => done a
  | raise e => raise e
  | act action next =>
    act (fun w => ((action (get w)).1, put w (action (get w)).2)) fun b => onPart (next b)

variable {get put}

theorem onPart_bind (p : Process σ ε α) (f : α → Process σ ε β) :
    (p >>= f).onPart get put = p.onPart get put >>= fun a => (f a).onPart get put := by
  induction p with
  | done a => rfl
  | raise e => rfl
  | act action next ih => exact congrArg (act _) (funext ih)

/-- How a procedure goes on behind a unit of work on a part of its world. -/
theorem step_onPart_transaction_cases (law : ∀ w, put w (get w) = w) (p : Prog σ κ ε (Exit α))
    (f : α → Process ω ε β) (w : ω) :
    (∃ a s', p.Commits (get w) a s' ∧
        ((transaction p).onPart get put >>= f).step w = (f a, put w s')) ∨
      (∃ a s', p.Returns (get w) (.rollback a) s' ∧
        ((transaction p).onPart get put >>= f).step w = (f a, w)) ∨
      ∃ e, p.Raises (get w) e ∧ ((transaction p).onPart get put >>= f).step w = (raise e, w) := by
  have hstep : ∀ x s', p.close (get w) = (x, s') →
      ((transaction p).onPart get put >>= f).step w =
        (((ofExcept x >>= fun x => pure x.answer).onPart get put >>= f), put w s') := by
    intro x s' h
    show ((((ofExcept (p.close (get w)).1 >>= fun x => pure x.answer).onPart get put).bind f),
      put w (p.close (get w)).2) = _
    rw [h]
    rfl
  rcases p.close_cases (get w) with ⟨a, s', h, hclose⟩ | ⟨a, s', h, hclose⟩ | ⟨e, h, hclose⟩
  · exact .inr (.inl ⟨a, s', h, by rw [hstep _ _ hclose, law]; rfl⟩)
  · exact .inl ⟨a, s', h, by rw [hstep _ _ hclose]; rfl⟩
  · exact .inr (.inr ⟨e, h, by rw [hstep _ _ hclose, law]; rfl⟩)

end Over

/-! ### Quiet procedures -/

/-- No action changes the world. -/
def Quiet : Process ω ε α → Prop
  | done _ => True
  | raise _ => True
  | act action next => ∀ w, (action w).2 = w ∧ (next (action w).1).Quiet

theorem Quiet.step {p : Process ω ε α} (h : p.Quiet) (w : ω) :
    (p.step w).2 = w ∧ (p.step w).1.Quiet := by
  cases p with
  | done a => exact ⟨rfl, h⟩
  | raise e => exact ⟨rfl, h⟩
  | act action next => exact h w

theorem Quiet.bind {p : Process ω ε α} {f : α → Process ω ε β} (h : p.Quiet)
    (hf : ∀ a, (f a).Quiet) : (p >>= f).Quiet := by
  induction p with
  | done a => exact hf a
  | raise e => trivial
  | act action next ih => exact fun w => ⟨(h w).1, ih _ (h w).2⟩

theorem Quiet.onPart {get : ω → σ} {put : ω → σ → ω} (law : ∀ w, put w (get w) = w)
    {p : Process σ ε α} (h : p.Quiet) : (p.onPart get put).Quiet := by
  induction p with
  | done a => trivial
  | raise e => trivial
  | act action next ih =>
    intro w
    obtain ⟨hsame, hnext⟩ := h (get w)
    refine ⟨?_, ih _ hnext⟩
    show put w (action (get w)).2 = w
    rw [hsame, law]

/-- A unit of work that only reads. -/
theorem quiet_transaction {p : Prog σ κ ε (Exit α)} (hp : p.ReadOnly) :
    (transaction p : Process σ ε α).Quiet := by
  intro s
  show (p.close s).2 = s ∧ ((ofExcept (p.close s).1 : Process σ ε (Exit α)).bind
    fun x => pure x.answer).Quiet
  rcases p.close_cases s with ⟨a, s', -, hclose⟩ | ⟨a, s', h, hclose⟩ | ⟨e, -, hclose⟩ <;>
    rw [hclose]
  · exact ⟨rfl, trivial⟩
  · exact ⟨hp.eq h, trivial⟩
  · exact ⟨rfl, trivial⟩

end Process

/-! ### Tokens -/

namespace Pool

variable {ω ε α τ : Type} {starts : Process ω ε α → Prop}

/-- The calls have the form `F` at the world, each with the token that it owns, and no
token is that of two calls. -/
def Owned (F : ω → Option τ → Process ω ε α → Prop) (c : Pool ω ε α) : Prop :=
  ∃ owners : List (Option τ × Process ω ε α), owners.map Prod.snd = c.calls ∧
    (∀ x ∈ owners, F c.world x.1 x.2) ∧
    owners.Pairwise fun x y => ∀ t, x.1 = some t → y.1 ≠ some t

variable {I : ω → Prop} {F : ω → Option τ → Process ω ε α → Prop}

/-- A call of the pool, with its form. -/
theorem Owned.form {c : Pool ω ε α} (h : Owned F c) {p : Process ω ε α} (hp : p ∈ c.calls) :
    ∃ o, F c.world o p := by
  obtain ⟨owners, hcalls, hforms, -⟩ := h
  rw [← hcalls] at hp
  obtain ⟨x, hx, rfl⟩ := List.mem_map.mp hp
  exact ⟨x.1, hforms x hx⟩

/-- One action of a call keeps the ownership. -/
theorem Owned.act {w : ω} {before after : List (Process ω ε α)} {p : Process ω ε α}
    (hown : ∀ o, F w o p → ∃ o', F (p.step w).2 o' (p.step w).1 ∧
      ∀ t, o' = some t → o = some t ∨ ∀ q, ¬F w (some t) q)
    (hframe : ∀ o o' q, F w o p → F w o' q → (∀ t, o = some t → o' ≠ some t) →
      F (p.step w).2 o' q)
    (h : Owned F ⟨w, before ++ p :: after⟩) :
    Owned F ⟨(p.step w).2, before ++ (p.step w).1 :: after⟩ := by
  obtain ⟨owners, hcalls, hforms, hdistinct⟩ := h
  obtain ⟨xs, rest, rfl, rfl, hrest⟩ := List.map_eq_append_iff.mp hcalls
  obtain ⟨⟨o, p'⟩, ys, rfl, rfl, rfl⟩ := List.map_eq_cons_iff.mp hrest
  have hp : F w o p' := hforms _ (List.mem_append_right _ (List.mem_cons_self ..))
  obtain ⟨o', hform, hgain⟩ := hown o hp
  obtain ⟨hxs, hrest, hcross⟩ := List.pairwise_append.mp hdistinct
  obtain ⟨hys, hyys⟩ := List.pairwise_cons.mp hrest
  -- the other calls own other tokens, before the action and after it
  have hother : ∀ x ∈ xs ++ ys, ∀ t, o = some t → x.1 ≠ some t := by
    intro x hx t ho hxt
    rcases List.mem_append.mp hx with hx | hx
    · exact hcross x hx _ (List.mem_cons_self ..) t hxt ho
    · exact hys x hx t ho hxt
  have hforms' : ∀ x ∈ xs ++ ys, F w x.1 x.2 := by
    intro x hx
    rcases List.mem_append.mp hx with hx | hx
    · exact hforms x (List.mem_append_left _ hx)
    · exact hforms x (List.mem_append_right _ (List.mem_cons_of_mem _ hx))
  have hnew : ∀ x ∈ xs ++ ys, ∀ t, o' = some t → x.1 ≠ some t := by
    intro x hx t ho' hxt
    rcases hgain t ho' with ho | hfree
    · exact hother x hx t ho hxt
    · exact hfree x.2 (hxt ▸ hforms' x hx)
  refine ⟨xs ++ (o', (p'.step w).1) :: ys, by simp, fun x hx => ?_, ?_⟩
  · rcases List.mem_append.mp hx with hx | hx
    · have hx := List.mem_append_left ys hx
      exact hframe o x.1 x.2 hp (hforms' x hx) (hother x hx)
    · rcases List.mem_cons.mp hx with rfl | hx
      · exact hform
      · have hx := List.mem_append_right xs hx
        exact hframe o x.1 x.2 hp (hforms' x hx) (hother x hx)
  · refine List.pairwise_append.mpr ⟨hxs, List.pairwise_cons.mpr ⟨fun y hy =>
      hnew y (List.mem_append_right _ hy), hyys⟩, fun x hx y hy => ?_⟩
    rcases List.mem_cons.mp hy with rfl | hy
    · exact fun t hxt ho' => hnew x (List.mem_append_left _ hx) t ho' hxt
    · exact hcross x hx y (List.mem_cons_of_mem _ hy)

/-- If calls start without a token, gain only tokens that nobody owns, and keep the
forms of the calls that own other tokens, then every pool that is reached is owned. -/
theorem Reaches.owned (hstart : ∀ p, starts p → ∀ w, I w → F w none p)
    (hown : ∀ w o p, I w → F w o p → I (p.step w).2 ∧
      ∃ o', F (p.step w).2 o' (p.step w).1 ∧ ∀ t, o' = some t → o = some t ∨ ∀ q, ¬F w (some t) q)
    (hframe : ∀ w o p o' q, I w → F w o p → F w o' q → (∀ t, o = some t → o' ≠ some t) →
      F (p.step w).2 o' q)
    {c c' : Pool ω ε α} (hw : I c.world) (hc : Owned F c) (h : Reaches starts c c') :
    I c'.world ∧ Owned F c' := by
  induction h with
  | refl => exact ⟨hw, hc⟩
  | tail _ hstep ih =>
    obtain ⟨hinv, howned⟩ := ih
    cases hstep with
    | start p hp =>
      obtain ⟨owners, hcalls, hforms, hdistinct⟩ := howned
      refine ⟨hinv, (none, p) :: owners, congrArg (p :: ·) hcalls, fun x hx => ?_,
        List.pairwise_cons.mpr ⟨fun y hy t ht => (by cases ht), hdistinct⟩⟩
      rcases List.mem_cons.mp hx with rfl | hx
      · exact hstart p hp _ hinv
      · exact hforms x hx
    | act before after p =>
      obtain ⟨o, hp⟩ := howned.form (List.mem_append_right before (List.mem_cons_self ..))
      exact ⟨(hown _ o p hinv hp).1, howned.act (fun o h => (hown _ o p hinv h).2)
        fun o o' q => hframe _ o p o' q hinv⟩

end Pool

end Transact
