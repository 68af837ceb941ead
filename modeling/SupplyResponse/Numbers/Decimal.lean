/-
Decimal arithmetic with a bounded coefficient.

A finite decimal is represented by the number it denotes.  What a context does
to the exact result of an operation is then a function of numbers:

* `roundHalfEven` — the nearest integer, halves to the even one;
* `Context.lastPlace x` — the exponent of the last digit kept of `x`;
* `Context.round x` — the number with that many digits nearest to `x`;
* `Context.fix x` — the result of an operation whose exact result is `x`, or
  `none` for an overflow.

On nonnegative numbers rounding is monotone (`round_mono`) and leaves its own
results alone (`round_round`), so a sum of nonnegative numbers grows with every
summand although each addition is rounded (`sumFrom_sublist`).
-/
import Mathlib.Data.Int.Log
import Mathlib.Data.Rat.Floor
import Mathlib.Tactic.Linarith
import Mathlib.Tactic.FieldSimp

namespace Decimal

/-! ### Rounding to an integer -/

/-- The nearest integer; a half goes to the even neighbour. -/
def roundHalfEven (x : ℚ) : ℤ :=
  if x - ⌊x⌋ < 1 / 2 then ⌊x⌋
  else if 1 / 2 < x - ⌊x⌋ then ⌊x⌋ + 1
  else ⌊x⌋ + ⌊x⌋ % 2

@[simp] theorem roundHalfEven_intCast (n : ℤ) : roundHalfEven n = n := by
  simp [roundHalfEven]

theorem floor_le_roundHalfEven (x : ℚ) : ⌊x⌋ ≤ roundHalfEven x := by
  rw [roundHalfEven]
  split_ifs <;> omega

theorem roundHalfEven_le_floor (x : ℚ) : roundHalfEven x ≤ ⌊x⌋ + 1 := by
  rw [roundHalfEven]
  split_ifs <;> omega

theorem roundHalfEven_mono {x y : ℚ} (h : x ≤ y) : roundHalfEven x ≤ roundHalfEven y := by
  have hfloor : ⌊x⌋ ≤ ⌊y⌋ := Int.floor_mono h
  rcases hfloor.lt_or_eq with hlt | heq
  · -- different integer parts: the bounds by the integer parts suffice
    have hx := roundHalfEven_le_floor x
    have hy := floor_le_roundHalfEven y
    omega
  · -- the same integer part: the fractions decide
    have hfrac : x - ⌊y⌋ ≤ y - ⌊y⌋ := by linarith
    simp only [roundHalfEven, heq]
    split_ifs
    all_goals first | omega | (exfalso; linarith)

theorem roundHalfEven_nonneg {x : ℚ} (h : 0 ≤ x) : 0 ≤ roundHalfEven x := by
  have hzero : roundHalfEven ((0 : ℤ) : ℚ) = 0 := roundHalfEven_intCast 0
  have hmono := roundHalfEven_mono h
  rw [Int.cast_zero] at hzero
  omega

/-! ### Powers of ten -/

theorem zpow_ten_pos (k : ℤ) : (0 : ℚ) < 10 ^ k := zpow_pos (by norm_num) k

/-- A multiple of a power of ten is a whole number of any lower power. -/
theorem exists_eq_div {k l : ℤ} (m : ℤ) (h : l ≤ k) : ∃ n : ℤ, (m * 10 ^ k : ℚ) / 10 ^ l = n := by
  obtain ⟨j, rfl⟩ : ∃ j : Nat, k = l + j := ⟨(k - l).toNat, by omega⟩
  have hne : (10 : ℚ) ^ l ≠ 0 := (zpow_ten_pos l).ne'
  refine ⟨m * 10 ^ j, ?_⟩
  rw [zpow_add₀ (by norm_num), zpow_natCast]
  push_cast
  field_simp

/-! ### Contexts -/

/-- How many digits a result keeps and which exponents it may have. -/
structure Context where
  precision : Nat
  emin : ℤ
  emax : ℤ
  precision_pos : 0 < precision

namespace Context

variable (c : Context)

/-- The exponent of the first digit of `x`, not below that of a normal number. -/
def firstPlace (x : ℚ) : ℤ := if x = 0 then c.emin else max (Int.log 10 |x|) c.emin

/-- The exponent of the last digit kept of `x`. -/
def lastPlace (x : ℚ) : ℤ := c.firstPlace x - (c.precision - 1)

def round (x : ℚ) : ℚ := roundHalfEven (x / 10 ^ c.lastPlace x) * 10 ^ c.lastPlace x

/-- The result of an operation whose exact result is `x`; `none` is an overflow. -/
def fix (x : ℚ) : Option ℚ :=
  if |c.round x| < 10 ^ (c.emax + 1) then some (c.round x) else none

def add (x y : ℚ) : Option ℚ := c.fix (x + y)

def mul (x y : ℚ) : Option ℚ := c.fix (x * y)

/-! ### The places of a number -/

theorem lastPlace_le_firstPlace (x : ℚ) : c.lastPlace x ≤ c.firstPlace x := by
  have := c.precision_pos
  rw [lastPlace]
  omega

theorem emin_le_firstPlace (x : ℚ) : c.emin ≤ c.firstPlace x := by
  rw [firstPlace]
  split_ifs <;> omega

theorem lt_zpow_firstPlace (x : ℚ) : |x| < 10 ^ (c.firstPlace x + 1) := by
  by_cases hx : x = 0
  · rw [hx, abs_zero]
    exact zpow_ten_pos _
  · have hlog : |x| < ((10 : Nat) : ℚ) ^ (Int.log 10 |x| + 1) :=
      Int.lt_zpow_succ_log_self (by norm_num) _
    refine lt_of_lt_of_le hlog ?_
    push_cast
    exact zpow_le_zpow_right₀ (by norm_num) (by rw [firstPlace, if_neg hx]; omega)

/-- Below `10 ^ (k + 1)` there is no digit above the place `k`. -/
theorem firstPlace_le {x : ℚ} {k : ℤ} (hx : |x| < 10 ^ (k + 1)) (hk : c.emin ≤ k) :
    c.firstPlace x ≤ k := by
  by_cases h0 : x = 0
  · rw [firstPlace, if_pos h0]
    exact hk
  · have hlog : Int.log 10 |x| < k + 1 :=
      (Int.lt_zpow_iff_log_lt (by norm_num) (abs_pos.mpr h0)).mp (by exact_mod_cast hx)
    rw [firstPlace, if_neg h0]
    omega

theorem firstPlace_mono {x y : ℚ} (h : |x| ≤ |y|) : c.firstPlace x ≤ c.firstPlace y :=
  c.firstPlace_le (h.trans_lt (c.lt_zpow_firstPlace y)) (c.emin_le_firstPlace y)

/-- A number whose first place lies above the smallest has a digit there. -/
theorem zpow_firstPlace_le {x : ℚ} (h : c.emin < c.firstPlace x) :
    10 ^ c.firstPlace x ≤ |x| := by
  by_contra hlt
  have hle := c.firstPlace_le (x := x) (k := c.firstPlace x - 1)
    (by rw [sub_add_cancel]; exact not_le.mp hlt) (by omega)
  omega

/-! ### Rounding -/

/-- A multiple of a place not below its last place is left alone. -/
theorem round_eq_self {x : ℚ} {m k : ℤ} (hx : x = m * 10 ^ k) (hk : c.lastPlace x ≤ k) :
    c.round x = x := by
  obtain ⟨n, hn⟩ := exists_eq_div m hk
  rw [← hx] at hn
  rw [round, hn, roundHalfEven_intCast, ← hn]
  exact div_mul_cancel₀ x (zpow_ten_pos _).ne'

@[simp] theorem round_zero : c.round 0 = 0 :=
  c.round_eq_self (m := 0) (k := c.lastPlace 0) (by simp) le_rfl

/-- Numbers with the same last place are rounded in their order. -/
theorem round_le_of_lastPlace {x y : ℚ} (h : x ≤ y) (hp : c.lastPlace x = c.lastPlace y) :
    c.round x ≤ c.round y := by
  have hpos := zpow_ten_pos (c.lastPlace y)
  rw [round, round, hp]
  refine mul_le_mul_of_nonneg_right ?_ hpos.le
  exact_mod_cast roundHalfEven_mono (div_le_div_of_nonneg_right h hpos.le)

/-- Rounding up does not cross a multiple of a higher place. -/
theorem round_le {x y : ℚ} {m k : ℤ} (hy : y = m * 10 ^ k) (hk : c.lastPlace x ≤ k)
    (h : x ≤ y) : c.round x ≤ y := by
  have hpos := zpow_ten_pos (c.lastPlace x)
  obtain ⟨n, hn⟩ := exists_eq_div m hk
  rw [← hy] at hn
  have hround : roundHalfEven (x / 10 ^ c.lastPlace x) ≤ n := by
    rw [← roundHalfEven_intCast n, ← hn]
    exact roundHalfEven_mono (div_le_div_of_nonneg_right h hpos.le)
  rw [round, ← le_div_iff₀ hpos, hn]
  exact_mod_cast hround

/-- Rounding down does not cross a multiple of a higher place. -/
theorem le_round {x y : ℚ} {m k : ℤ} (hy : y = m * 10 ^ k) (hk : c.lastPlace x ≤ k)
    (h : y ≤ x) : y ≤ c.round x := by
  have hpos := zpow_ten_pos (c.lastPlace x)
  obtain ⟨n, hn⟩ := exists_eq_div m hk
  rw [← hy] at hn
  have hround : n ≤ roundHalfEven (x / 10 ^ c.lastPlace x) := by
    rw [← roundHalfEven_intCast n, ← hn]
    exact roundHalfEven_mono (div_le_div_of_nonneg_right h hpos.le)
  rw [round, ← div_le_iff₀ hpos, hn]
  exact_mod_cast hround

theorem round_nonneg {x : ℚ} (h : 0 ≤ x) : 0 ≤ c.round x :=
  c.le_round (m := 0) (k := c.lastPlace x) (by simp) le_rfl h

theorem round_mono {x y : ℚ} (hx : 0 ≤ x) (h : x ≤ y) : c.round x ≤ c.round y := by
  have habs : |x| ≤ |y| := by rwa [abs_of_nonneg hx, abs_of_nonneg (hx.trans h)]
  rcases (c.firstPlace_mono habs).lt_or_eq with hlt | heq
  · -- the power of ten at the first place of `y` lies between them
    set k := c.firstPlace y with hk
    have hy : 10 ^ k ≤ y := by
      have := c.zpow_firstPlace_le (x := y) (lt_of_le_of_lt (c.emin_le_firstPlace x) hlt)
      rwa [abs_of_nonneg (hx.trans h)] at this
    have hx' : x ≤ 10 ^ k := by
      have hlt' := c.lt_zpow_firstPlace x
      rw [abs_of_nonneg hx] at hlt'
      exact hlt'.le.trans (zpow_le_zpow_right₀ (by norm_num) (by omega))
    have hlast : c.lastPlace x ≤ k := (c.lastPlace_le_firstPlace x).trans hlt.le
    calc c.round x ≤ 10 ^ k := c.round_le (m := 1) (k := k) (by simp) hlast hx'
      _ ≤ c.round y := c.le_round (m := 1) (k := k) (by simp) (c.lastPlace_le_firstPlace y) hy
  · exact c.round_le_of_lastPlace h (by rw [lastPlace, lastPlace, heq])

/-- The power of ten above all digits of a nonnegative `x` bounds `round x`. -/
theorem round_le_zpow {x : ℚ} (hx : 0 ≤ x) : c.round x ≤ 10 ^ (c.firstPlace x + 1) := by
  have hlt := c.lt_zpow_firstPlace x
  rw [abs_of_nonneg hx] at hlt
  have hlast := c.lastPlace_le_firstPlace x
  exact c.round_le (m := 1) (k := c.firstPlace x + 1) (by simp) (by omega) hlt.le

@[simp] theorem round_round {x : ℚ} (hx : 0 ≤ x) : c.round (c.round x) = c.round x := by
  have hnonneg := c.round_nonneg hx
  have hemin := c.emin_le_firstPlace x
  rcases (c.round_le_zpow hx).lt_or_eq with hlt | heq
  · -- the places are still those of `x`
    refine c.round_eq_self (m := roundHalfEven (x / 10 ^ c.lastPlace x)) (k := c.lastPlace x) rfl ?_
    have hfirst : c.firstPlace (c.round x) ≤ c.firstPlace x :=
      c.firstPlace_le (by rwa [abs_of_nonneg hnonneg]) hemin
    rw [lastPlace, lastPlace]
    omega
  · -- rounded up to a power of ten
    refine c.round_eq_self (m := 1) (k := c.firstPlace x + 1) (by rw [heq]; simp) ?_
    refine (c.lastPlace_le_firstPlace _).trans (c.firstPlace_le ?_ (by omega))
    rw [abs_of_nonneg hnonneg, heq]
    exact zpow_lt_zpow_right₀ (by norm_num) (by omega)

/-! ### Results of operations -/

theorem fix_eq_some {x r : ℚ} (h : c.fix x = some r) : r = c.round x := by
  rw [fix] at h
  split_ifs at h with hlt
  exact (Option.some.inj h).symm

/-- A multiple of a kept place, of few enough digits, is a result as it is. -/
theorem fix_eq_self {x : ℚ} {m k l : ℤ} (hx : x = m * 10 ^ k) (hl : |x| < 10 ^ (l + 1))
    (hemin : c.emin ≤ l) (hemax : l ≤ c.emax) (hk : l - (c.precision - 1) ≤ k) :
    c.fix x = some x := by
  have hfirst := c.firstPlace_le hl hemin
  have hround : c.round x = x := c.round_eq_self hx (by rw [lastPlace]; omega)
  rw [fix, hround, if_pos]
  exact hl.trans_le (zpow_le_zpow_right₀ (by norm_num) (by omega))

theorem fix_nonneg {x r : ℚ} (hx : 0 ≤ x) (h : c.fix x = some r) : 0 ≤ r := by
  rw [c.fix_eq_some h]
  exact c.round_nonneg hx

theorem fix_mono {x y r s : ℚ} (hx : 0 ≤ x) (h : x ≤ y) (hr : c.fix x = some r)
    (hs : c.fix y = some s) : r ≤ s := by
  rw [c.fix_eq_some hr, c.fix_eq_some hs]
  exact c.round_mono hx h

/-- What is not larger than a number in range is in range. -/
theorem fix_of_le {x y s : ℚ} (hx : 0 ≤ x) (h : x ≤ y) (hs : c.fix y = some s) :
    ∃ r, c.fix x = some r ∧ r ≤ s := by
  have hround := c.round_mono hx h
  have hlt : |c.round y| < 10 ^ (c.emax + 1) := by
    by_contra hge
    rw [fix, if_neg hge] at hs
    exact absurd hs nofun
  have hlt' : |c.round x| < 10 ^ (c.emax + 1) := by
    rw [abs_of_nonneg (c.round_nonneg (hx.trans h))] at hlt
    rw [abs_of_nonneg (c.round_nonneg hx)]
    exact hround.trans_lt hlt
  refine ⟨c.round x, by rw [fix, if_pos hlt'], ?_⟩
  rw [c.fix_eq_some hs]
  exact hround

/-- `x` is a result that operations of the context can have. -/
def IsResult (x : ℚ) : Prop := c.fix x = some x

theorem isResult_of_fix {x r : ℚ} (hx : 0 ≤ x) (h : c.fix x = some r) : c.IsResult r := by
  have hround := c.fix_eq_some h
  rw [fix] at h
  split_ifs at h with hlt
  rw [IsResult, fix, hround, c.round_round hx, if_pos hlt]

theorem isResult_zero : c.IsResult 0 := by
  rw [IsResult, fix, round_zero, if_pos]
  rw [abs_zero]
  exact zpow_ten_pos _

/-- Adding a nonnegative number does not make a result smaller. -/
theorem le_add {x y r : ℚ} (hx : 0 ≤ x) (hres : c.IsResult x) (hy : 0 ≤ y)
    (h : c.add x y = some r) : x ≤ r :=
  c.fix_mono hx (le_add_of_nonneg_right hy) hres h

/-! ### Sums -/

/-- `total + x₁ + x₂ + …`, each addition rounded. -/
def sumFrom (total : ℚ) (xs : List ℚ) : Option ℚ := xs.foldlM c.add total

@[simp] theorem sumFrom_nil (total : ℚ) : c.sumFrom total [] = some total := rfl

@[simp] theorem sumFrom_cons (total x : ℚ) (xs : List ℚ) :
    c.sumFrom total (x :: xs) = (c.add total x).bind fun t => c.sumFrom t xs := rfl

/-- Where every partial sum is a result, nothing is rounded. -/
theorem sumFrom_eq_sum {total : ℚ} {xs : List ℚ}
    (h : ∀ ys, ys <+: xs → c.IsResult (total + ys.sum)) :
    c.sumFrom total xs = some (total + xs.sum) := by
  induction xs generalizing total with
  | nil => rw [sumFrom_nil, List.sum_nil, add_zero]
  | cons x xs ih =>
    have hfirst : c.add total x = some (total + x) := by
      have hone := h [x] (List.prefix_append [x] xs)
      rw [List.sum_singleton] at hone
      exact hone
    have hrest : ∀ ys, ys <+: xs → c.IsResult (total + x + ys.sum) := by
      intro ys hys
      have hall := h (x :: ys) (List.cons_prefix_cons.mpr ⟨rfl, hys⟩)
      rw [List.sum_cons, ← add_assoc] at hall
      exact hall
    rw [sumFrom_cons, hfirst, Option.bind_some, ih hrest, List.sum_cons, add_assoc]

theorem sumFrom_isResult {total r : ℚ} {xs : List ℚ} (htotal : 0 ≤ total)
    (hres : c.IsResult total) (hxs : ∀ x ∈ xs, 0 ≤ x) (h : c.sumFrom total xs = some r) :
    0 ≤ r ∧ c.IsResult r := by
  induction xs generalizing total with
  | nil =>
    obtain rfl := Option.some.inj h
    exact ⟨htotal, hres⟩
  | cons x xs ih =>
    have hx := hxs x (List.mem_cons_self ..)
    obtain ⟨t, hadd, h⟩ := Option.bind_eq_some_iff.mp h
    exact ih (htotal.trans (c.le_add htotal hres hx hadd))
      (c.isResult_of_fix (add_nonneg htotal hx) hadd)
      (fun y hy => hxs y (List.mem_cons_of_mem _ hy)) h

/-- Leaving out summands and starting lower keeps a sum in range and does not
make it larger. -/
theorem sumFrom_sublist {xs ys : List ℚ} (hsub : xs.Sublist ys) (hys : ∀ y ∈ ys, 0 ≤ y)
    {total total' t : ℚ} (htotal : 0 ≤ total) (hle : total ≤ total') (hres : c.IsResult total')
    (h : c.sumFrom total' ys = some t) : ∃ s, c.sumFrom total xs = some s ∧ s ≤ t := by
  induction hsub generalizing total total' with
  | slnil =>
    obtain rfl := Option.some.inj h
    exact ⟨total, rfl, hle⟩
  | @cons xs ys y _ ih =>
    -- the summand is left out: the larger total only grows
    have hy := hys y (List.mem_cons_self ..)
    have htotal' := htotal.trans hle
    obtain ⟨u, hadd, h⟩ := Option.bind_eq_some_iff.mp h
    exact ih (fun z hz => hys z (List.mem_cons_of_mem _ hz)) htotal
      (hle.trans (c.le_add htotal' hres hy hadd))
      (c.isResult_of_fix (add_nonneg htotal' hy) hadd) h
  | @cons_cons xs ys y _ ih =>
    have hy := hys y (List.mem_cons_self ..)
    have htotal' := htotal.trans hle
    obtain ⟨u, hadd, h⟩ := Option.bind_eq_some_iff.mp h
    obtain ⟨v, hv, hvu⟩ := c.fix_of_le (add_nonneg htotal hy) (add_le_add_left hle y) hadd
    obtain ⟨s, hs, hst⟩ := ih (fun z hz => hys z (List.mem_cons_of_mem _ hz))
      (c.fix_nonneg (add_nonneg htotal hy) hv) hvu
      (c.isResult_of_fix (add_nonneg htotal' hy) hadd) h
    exact ⟨s, by rw [sumFrom_cons, add, hv]; exact hs, hst⟩

end Context

end Decimal
