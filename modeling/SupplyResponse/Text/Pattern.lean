/-
Regular expressions with named groups.

* `Pattern` — texts, runs of letters, sequences, alternatives and groups; letters are compared
  after folding their case;
* `Spells` — the texts of a pattern, with what its groups hold;
* `readings` — the matcher: alternatives in order, the longest run first; `mem_readings` — it
  finds the spelled beginnings of a text;
* `Pattern.decided` — the next letter decides how a text goes on; then a text is spelled in one
  way (`Spells.unique`), and `fullmatch` finds it.
-/
import Mathlib.Data.List.Basic
import Mathlib.Tactic.Common

namespace Regex

/-- A regular expression, with groups of the names `ν`. -/
inductive Pattern (ν : Type)
  | text (s : List Char)
  | run (letters : List Char) (least : ℕ) (most : Option ℕ)
  | seq (a b : Pattern ν)
  | alt (a b : Pattern ν)
  | group (name : ν) (a : Pattern ν)
  deriving DecidableEq

/-- The patterns one after the other. -/
def Pattern.seqs {ν : Type} : List (Pattern ν) → Pattern ν
  | [] => .text []
  | a :: parts => .seq a (.seqs parts)

/-- What the groups hold. -/
abbrev Captures (ν : Type) := List (ν × List Char)

variable {ν : Type} {fold : Char → Char}

/-- `u` is a text of the pattern, with the captures `c`. -/
inductive Spells (fold : Char → Char) : Pattern ν → List Char → Captures ν → Prop
  | text {s u : List Char} (h : u.map fold = s) : Spells fold (.text s) u []
  | run {letters : List Char} {least : ℕ} {most : Option ℕ} {u : List Char}
    (mem : ∀ x ∈ u, fold x ∈ letters) (le_length : least ≤ u.length)
    (length_le : ∀ n ∈ most, u.length ≤ n) : Spells fold (.run letters least most) u []
  | seq {a b : Pattern ν} {u v : List Char} {c d : Captures ν} (left : Spells fold a u c)
    (right : Spells fold b v d) : Spells fold (.seq a b) (u ++ v) (c ++ d)
  | left {a b : Pattern ν} {u : List Char} {c : Captures ν} (h : Spells fold a u c) :
    Spells fold (.alt a b) u c
  | right {a b : Pattern ν} {u : List Char} {c : Captures ν} (h : Spells fold b u c) :
    Spells fold (.alt a b) u c
  | group {name : ν} {a : Pattern ν} {u : List Char} {c : Captures ν} (h : Spells fold a u c) :
    Spells fold (.group name a) u ((name, u) :: c)

/-- A text of a sequence, piece by piece. -/
theorem spells_seqs {parts : List (Pattern ν)} {pieces : List (List Char × Captures ν)}
    (h : List.Forall₂ (fun a p => Spells fold a p.1 p.2) parts pieces) :
    Spells fold (.seqs parts) (pieces.flatMap Prod.fst) (pieces.flatMap Prod.snd) := by
  induction h with
  | nil => exact .text rfl
  | cons hp hrest ih => exact .seq hp ih

/-- A text is spelled as its image under a map that folding does not see. -/
theorem spells_map {f : Char → Char} (hf : ∀ x, fold (f x) = fold x) {a : Pattern ν}
    {u : List Char} {c : Captures ν} :
    Spells fold a (u.map f) c ↔
      ∃ d, Spells fold a u d ∧ c = d.map (Prod.map id (List.map f)) := by
  constructor
  · intro h
    generalize hv : u.map f = v at h
    induction h generalizing u with
    | text h =>
      subst hv
      rw [List.map_map] at h
      exact ⟨[], .text (by rw [← h]; exact List.map_congr_left fun x _ => (hf x).symm), rfl⟩
    | run mem le_length length_le =>
      subst hv
      rw [List.length_map] at le_length length_le
      refine ⟨[], .run (fun x hx => ?_) le_length length_le, rfl⟩
      rw [← hf x]
      exact mem (f x) (List.mem_map_of_mem hx)
    | seq left right ihl ihr =>
      obtain ⟨u₁, u₂, rfl, h₁, h₂⟩ := List.map_eq_append_iff.mp hv
      obtain ⟨d₁, hd₁, rfl⟩ := ihl h₁
      obtain ⟨d₂, hd₂, rfl⟩ := ihr h₂
      exact ⟨d₁ ++ d₂, .seq hd₁ hd₂, (List.map_append).symm⟩
    | left h ih =>
      obtain ⟨d, hd, rfl⟩ := ih hv
      exact ⟨d, .left hd, rfl⟩
    | right h ih =>
      obtain ⟨d, hd, rfl⟩ := ih hv
      exact ⟨d, .right hd, rfl⟩
    | group h ih =>
      obtain ⟨d, hd, rfl⟩ := ih hv
      subst hv
      exact ⟨_, .group hd, rfl⟩
  · rintro ⟨d, h, rfl⟩
    induction h with
    | text h =>
      refine .text ?_
      rw [← h, List.map_map]
      exact List.map_congr_left fun x _ => hf x
    | run mem le_length length_le =>
      refine .run (fun x hx => ?_) ?_ ?_
      · obtain ⟨y, hy, rfl⟩ := List.mem_map.mp hx
        rw [hf y]
        exact mem y hy
      · rw [List.length_map]
        exact le_length
      · rw [List.length_map]
        exact length_le
    | seq left right ihl ihr =>
      rw [List.map_append, List.map_append]
      exact .seq ihl ihr
    | left h ih => exact .left ih
    | right h ih => exact .right ih
    | group h ih => exact .group ih

/-! ### The matcher -/

/-- The lengths of a run at the beginning of a text, the longest first. -/
def runLengths (fold : Char → Char) (letters : List Char) (least : ℕ) (most : Option ℕ)
    (s : List Char) : List ℕ :=
  let longest := (s.takeWhile fun x => fold x ∈ letters).length
  ((List.range (longest + 1)).filter fun n => least ≤ n ∧ ∀ m ∈ most, n ≤ m).reverse

/-- The captures of the spelled beginnings of a text, with the rests, in the order of a
backtracking search. -/
def readings (fold : Char → Char) : Pattern ν → List Char → List (Captures ν × List Char)
  | .text t, s => if (s.take t.length).map fold = t then [([], s.drop t.length)] else []
  | .run letters least most, s =>
    (runLengths fold letters least most s).map fun n => ([], s.drop n)
  | .seq a b, s =>
    (readings fold a s).flatMap fun r =>
      (readings fold b r.2).map fun r' => (r.1 ++ r'.1, r'.2)
  | .alt a b, s => readings fold a s ++ readings fold b s
  | .group name a, s =>
    (readings fold a s).map fun r => ((name, s.take (s.length - r.2.length)) :: r.1, r.2)

/-- The first reading of a whole text. -/
def fullmatch (fold : Char → Char) (a : Pattern ν) (s : List Char) : Option (Captures ν) :=
  ((readings fold a s).find? fun r => r.2.isEmpty).map Prod.fst

theorem mem_runLengths {letters : List Char} {least n : ℕ} {most : Option ℕ} {s : List Char} :
    n ∈ runLengths fold letters least most s ↔
      n ≤ s.length ∧ (∀ x ∈ s.take n, fold x ∈ letters) ∧ least ≤ n ∧ ∀ m ∈ most, n ≤ m := by
  have hlongest : n ≤ (s.takeWhile fun x => fold x ∈ letters).length ↔
      n ≤ s.length ∧ ∀ x ∈ s.take n, fold x ∈ letters := by
    induction s generalizing n with
    | nil => simp
    | cons x s ih =>
      cases n with
      | zero => simp
      | succ n =>
        by_cases hx : fold x ∈ letters
        · simp [hx, ih]
        · simp [hx]
  simp only [runLengths, List.mem_reverse, List.mem_filter, List.mem_range, decide_eq_true_eq]
  rw [Nat.lt_succ_iff, hlongest, and_assoc]

/-- The matcher finds the spelled beginnings of a text. -/
theorem mem_readings {a : Pattern ν} {s rest : List Char} {c : Captures ν} :
    (c, rest) ∈ readings fold a s ↔ ∃ u, s = u ++ rest ∧ Spells fold a u c := by
  induction a generalizing s rest c with
  | text t =>
    rw [readings]
    constructor
    · intro h
      split_ifs at h with ht
      · obtain ⟨rfl, rfl⟩ := Prod.mk.inj (List.mem_singleton.mp h)
        exact ⟨s.take t.length, (List.take_append_drop _ s).symm, .text ht⟩
      · cases h
    · rintro ⟨u, rfl, hu⟩
      cases hu with
      | text hu =>
        have hlength : t.length = u.length := by rw [← hu, List.length_map]
        rw [hlength, List.take_left, List.drop_left, if_pos hu]
        exact List.mem_singleton_self _
  | run letters least most =>
    simp only [readings, List.mem_map, Prod.mk.injEq]
    constructor
    · rintro ⟨n, hn, rfl, rfl⟩
      obtain ⟨hlength, hmem, hleast, hmost⟩ := mem_runLengths.mp hn
      refine ⟨s.take n, (List.take_append_drop n s).symm, .run hmem ?_ ?_⟩
      · rw [List.length_take, Nat.min_eq_left hlength]
        exact hleast
      · rw [List.length_take, Nat.min_eq_left hlength]
        exact hmost
    · rintro ⟨u, rfl, hu⟩
      cases hu with
      | run hmem hleast hmost =>
        refine ⟨u.length, mem_runLengths.mpr ⟨?_, ?_, hleast, hmost⟩, rfl, List.drop_left⟩
        · rw [List.length_append]
          omega
        · rw [List.take_left]
          exact hmem
  | seq a b iha ihb =>
    simp only [readings, List.mem_flatMap, List.mem_map, Prod.mk.injEq]
    constructor
    · rintro ⟨⟨c₁, s₁⟩, h₁, ⟨c₂, s₂⟩, h₂, rfl, rfl⟩
      obtain ⟨u, rfl, hu⟩ := iha.mp h₁
      obtain ⟨v, rfl, hv⟩ := ihb.mp h₂
      exact ⟨u ++ v, (List.append_assoc ..).symm, hu.seq hv⟩
    · rintro ⟨_, rfl, hu⟩
      cases hu with
      | @seq _ _ u v _ _ hu hv =>
        exact ⟨(_, v ++ rest), iha.mpr ⟨u, List.append_assoc .., hu⟩, (_, rest),
          ihb.mpr ⟨v, rfl, hv⟩, rfl, rfl⟩
  | alt a b iha ihb =>
    rw [readings, List.mem_append, iha, ihb]
    constructor
    · rintro (⟨u, hs, hu⟩ | ⟨u, hs, hu⟩)
      · exact ⟨u, hs, .left hu⟩
      · exact ⟨u, hs, .right hu⟩
    · rintro ⟨u, hs, hu⟩
      cases hu with
      | left hu => exact .inl ⟨u, hs, hu⟩
      | right hu => exact .inr ⟨u, hs, hu⟩
  | group name a ih =>
    simp only [readings, List.mem_map, Prod.mk.injEq]
    constructor
    · rintro ⟨⟨c', s'⟩, h, rfl, rfl⟩
      obtain ⟨u, rfl, hu⟩ := ih.mp h
      refine ⟨u, rfl, ?_⟩
      rw [List.length_append, Nat.add_sub_cancel, List.take_left]
      exact .group hu
    · rintro ⟨u, rfl, hu⟩
      cases hu with
      | group hu =>
        refine ⟨(_, rest), ih.mpr ⟨u, rfl, hu⟩, ?_, rfl⟩
        rw [List.length_append, Nat.add_sub_cancel, List.take_left]

/-- A match is a spelling of the whole text, and there is one if the text has any. -/
theorem fullmatch_spells {a : Pattern ν} {s : List Char} {c : Captures ν}
    (h : fullmatch fold a s = some c) : Spells fold a s c := by
  obtain ⟨⟨c', rest⟩, hfind, rfl⟩ := Option.map_eq_some_iff.mp h
  have hempty : rest = [] := by simpa using List.find?_some hfind
  subst hempty
  obtain ⟨u, hs, hu⟩ := mem_readings.mp (List.mem_of_find?_eq_some hfind)
  rw [List.append_nil] at hs
  exact hs ▸ hu

theorem fullmatch_isSome {a : Pattern ν} {s : List Char} {c : Captures ν}
    (h : Spells fold a s c) : (fullmatch fold a s).isSome := by
  rw [fullmatch, Option.isSome_map, List.find?_isSome]
  exact ⟨(c, []), mem_readings.mpr ⟨s, (List.append_nil s).symm, h⟩, rfl⟩

/-! ### Decided patterns -/

namespace Pattern

/-- Whether the empty text is spelled. -/
def nullable : Pattern ν → Bool
  | text s => s = []
  | run _ least _ => least = 0
  | seq a b => a.nullable && b.nullable
  | alt a b => a.nullable || b.nullable
  | group _ a => a.nullable

/-- The letters a text can begin with. -/
def first : Pattern ν → List Char
  | text s => s.take 1
  | run letters _ _ => letters
  | seq a b => a.first ++ if a.nullable then b.first else []
  | alt a b => a.first ++ b.first
  | group _ a => a.first

/-- The letters of a text. -/
def alphabet : Pattern ν → List Char
  | text s => s
  | run letters _ _ => letters
  | seq a b => a.alphabet ++ b.alphabet
  | alt a b => a.alphabet ++ b.alphabet
  | group _ a => a.alphabet

def grouped : Pattern ν → Bool
  | text _ => false
  | run _ _ _ => false
  | seq a b => a.grouped || b.grouped
  | alt a b => a.grouped || b.grouped
  | group _ _ => true

/-- The letters that can come first in a text of the pattern with what follows it. -/
def lead (a : Pattern ν) (follow : List Char) : List Char :=
  a.first ++ if a.nullable then follow else []

def disjoint (l l' : List Char) : Bool := l.all fun x => !l'.contains x

/-- No groups, and letters that end where the text does. -/
def closed (a : Pattern ν) (follow : List Char) : Bool :=
  !a.grouped && disjoint a.alphabet follow

/-- The next letter decides how a text of the pattern goes on, if what follows the text begins
with one of the letters `follow`. -/
def decided : Pattern ν → List Char → Bool
  | text _, _ => true
  | run letters least most, follow => most = some least || disjoint letters follow
  | seq a b, follow =>
    (seq a b).closed follow || a.decided (b.lead follow) && b.decided follow
  | alt a b, follow =>
    (alt a b).closed follow || a.decided follow && b.decided follow &&
      !(a.nullable && b.nullable) && disjoint (a.lead follow) (b.lead follow)
  | group _ a, follow => a.decided follow

/-- The groups, with their names. -/
def groups : Pattern ν → List (ν × Pattern ν)
  | text _ => []
  | run _ _ _ => []
  | seq a b => a.groups ++ b.groups
  | alt a b => a.groups ++ b.groups
  | group name a => (name, a) :: a.groups

/-- Every group takes part in every match. -/
def plain : Pattern ν → Bool
  | text _ => true
  | run _ _ _ => true
  | seq a b => a.plain && b.plain
  | alt a b => !a.grouped && !b.grouped
  | group _ a => a.plain

theorem groups_of_not_grouped {a : Pattern ν} (h : a.grouped = false) : a.groups = [] := by
  induction a with
  | text s => rfl
  | run letters least most => rfl
  | seq a b iha ihb =>
    obtain ⟨ha, hb⟩ := Bool.or_eq_false_iff.mp h
    rw [groups, iha ha, ihb hb]
    rfl
  | alt a b iha ihb =>
    obtain ⟨ha, hb⟩ := Bool.or_eq_false_iff.mp h
    rw [groups, iha ha, ihb hb]
    rfl
  | group name a ih => cases h

end Pattern

theorem disjoint_spec {l l' : List Char} (h : Pattern.disjoint l l' = true) {x : Char}
    (hx : x ∈ l) : x ∉ l' := by
  have hall := List.all_eq_true.mp h x hx
  simpa using hall

/-- What follows a text begins with one of the letters, or is empty. -/
def Follows (fold : Char → Char) (follow : List Char) (x : List Char) : Prop :=
  ∀ c ∈ x.head?, fold c ∈ follow

theorem Spells.nullable {a : Pattern ν} {u : List Char} {c : Captures ν} (h : Spells fold a u c)
    (hu : u = []) : a.nullable = true := by
  induction h with
  | text h =>
    subst hu
    exact decide_eq_true h.symm
  | run mem le_length length_le =>
    subst hu
    exact decide_eq_true (Nat.le_zero.mp le_length)
  | seq left right ihl ihr =>
    obtain ⟨hl, hr⟩ := List.append_eq_nil_iff.mp hu
    exact Bool.and_eq_true_iff.mpr ⟨ihl hl, ihr hr⟩
  | left h ih => exact Bool.or_eq_true_iff.mpr (.inl (ih hu))
  | right h ih => exact Bool.or_eq_true_iff.mpr (.inr (ih hu))
  | group h ih => exact ih hu

theorem Spells.head_mem {a : Pattern ν} {u : List Char} {c : Captures ν} (h : Spells fold a u c)
    {x : Char} (hx : x ∈ u.head?) : fold x ∈ a.first := by
  induction h with
  | @text s u h =>
    cases u with
    | nil => cases hx
    | cons y u =>
      obtain rfl := Option.some.inj hx
      rw [← h]
      exact List.mem_cons_self
  | run mem le_length length_le => exact mem x (List.mem_of_mem_head? hx)
  | @seq a b u v c d left right ihl ihr =>
    cases u with
    | nil =>
      rw [List.nil_append] at hx
      refine List.mem_append_right _ ?_
      rw [if_pos (left.nullable rfl)]
      exact ihr hx
    | cons y u => exact List.mem_append_left _ (ihl hx)
  | left h ih => exact List.mem_append_left _ (ih hx)
  | right h ih => exact List.mem_append_right _ (ih hx)
  | group h ih => exact ih hx

theorem Spells.mem_alphabet {a : Pattern ν} {u : List Char} {c : Captures ν}
    (h : Spells fold a u c) : ∀ x ∈ u, fold x ∈ a.alphabet := by
  induction h with
  | text h => exact fun x hx => h ▸ List.mem_map_of_mem hx
  | run mem le_length length_le => exact mem
  | seq left right ihl ihr =>
    intro x hx
    rcases List.mem_append.mp hx with hx | hx
    · exact List.mem_append_left _ (ihl x hx)
    · exact List.mem_append_right _ (ihr x hx)
  | left h ih => exact fun x hx => List.mem_append_left _ (ih x hx)
  | right h ih => exact fun x hx => List.mem_append_right _ (ih x hx)
  | group h ih => exact ih

theorem Spells.captures_eq {a : Pattern ν} {u : List Char} {c : Captures ν}
    (h : Spells fold a u c) (ha : a.grouped = false) : c = [] := by
  induction h with
  | text h => rfl
  | run mem le_length length_le => rfl
  | seq left right ihl ihr =>
    obtain ⟨hl, hr⟩ := Bool.or_eq_false_iff.mp ha
    rw [ihl hl, ihr hr]
    rfl
  | left h ih => exact ih (Bool.or_eq_false_iff.mp ha).1
  | right h ih => exact ih (Bool.or_eq_false_iff.mp ha).2
  | group h ih => cases ha

/-- A match has a capture for every group. -/
theorem Spells.names {a : Pattern ν} {u : List Char} {c : Captures ν} (h : Spells fold a u c)
    (ha : a.plain = true) : c.map Prod.fst = a.groups.map Prod.fst := by
  induction h with
  | text h => rfl
  | run mem le_length length_le => rfl
  | seq left right ihl ihr =>
    obtain ⟨hl, hr⟩ := Bool.and_eq_true_iff.mp ha
    rw [Pattern.groups, List.map_append, List.map_append, ihl hl, ihr hr]
  | @left a b u c h ih =>
    obtain ⟨hl, hr⟩ := Bool.and_eq_true_iff.mp ha
    have hl : a.grouped = false := by simpa using hl
    have hr : b.grouped = false := by simpa using hr
    rw [h.captures_eq hl, Pattern.groups, Pattern.groups_of_not_grouped hl,
      Pattern.groups_of_not_grouped hr]
    rfl
  | @right a b u c h ih =>
    obtain ⟨hl, hr⟩ := Bool.and_eq_true_iff.mp ha
    have hl : a.grouped = false := by simpa using hl
    have hr : b.grouped = false := by simpa using hr
    rw [h.captures_eq hr, Pattern.groups, Pattern.groups_of_not_grouped hl,
      Pattern.groups_of_not_grouped hr]
    rfl
  | group h ih => rw [Pattern.groups, List.map_cons, List.map_cons, ih ha]

/-- What a group holds is a text of it. -/
theorem Spells.captured {a : Pattern ν} {u : List Char} {c : Captures ν} (h : Spells fold a u c) :
    ∀ p ∈ c, ∃ b d, (p.1, b) ∈ a.groups ∧ Spells fold b p.2 d := by
  induction h with
  | text h => exact nofun
  | run mem le_length length_le => exact nofun
  | seq left right ihl ihr =>
    intro p hp
    rcases List.mem_append.mp hp with hp | hp
    · obtain ⟨b, d, hmem, hb⟩ := ihl p hp
      exact ⟨b, d, List.mem_append_left _ hmem, hb⟩
    · obtain ⟨b, d, hmem, hb⟩ := ihr p hp
      exact ⟨b, d, List.mem_append_right _ hmem, hb⟩
  | left h ih =>
    intro p hp
    obtain ⟨b, d, hmem, hb⟩ := ih p hp
    exact ⟨b, d, List.mem_append_left _ hmem, hb⟩
  | right h ih =>
    intro p hp
    obtain ⟨b, d, hmem, hb⟩ := ih p hp
    exact ⟨b, d, List.mem_append_right _ hmem, hb⟩
  | @group name a u c h ih =>
    intro p hp
    rcases List.mem_cons.mp hp with rfl | hp
    · exact ⟨a, c, List.mem_cons_self, h⟩
    · obtain ⟨b, d, hmem, hb⟩ := ih p hp
      exact ⟨b, d, List.mem_cons_of_mem _ hmem, hb⟩

/-- The value of a name is a text of a group of the name. -/
theorem Spells.lookup [DecidableEq ν] {a : Pattern ν} {u : List Char} {c : Captures ν}
    (h : Spells fold a u c) (ha : a.plain = true) {name : ν}
    (hname : name ∈ a.groups.map Prod.fst) :
    ∃ v b d, c.lookup name = some v ∧ (name, b) ∈ a.groups ∧ Spells fold b v d := by
  rw [← h.names ha] at hname
  cases hv : c.lookup name with
  | none =>
    obtain ⟨p, hp, rfl⟩ := List.mem_map.mp hname
    have hnone := List.lookup_eq_none_iff.mp hv p hp
    simp at hnone
  | some v =>
    obtain ⟨l₁, l₂, rfl, -⟩ := List.lookup_eq_some_iff.mp hv
    obtain ⟨b, d, hmem, hb⟩ := h.captured (name, v) (by simp)
    exact ⟨v, b, d, rfl, hmem, hb⟩

/-- A text with what follows it begins with a leading letter. -/
theorem Spells.follows {a : Pattern ν} {u x : List Char} {c : Captures ν} {follow : List Char}
    (h : Spells fold a u c) (hx : Follows fold follow x) :
    Follows fold (a.lead follow) (u ++ x) := by
  intro y hy
  cases u with
  | nil =>
    refine List.mem_append_right _ ?_
    rw [if_pos (h.nullable rfl)]
    exact hx y hy
  | cons z u => exact List.mem_append_left _ (h.head_mem hy)

/-- Two texts of the same letters that end where the letters do are equal. -/
theorem eq_of_append_eq {p : Char → Prop} {u v x y : List Char} (hu : ∀ c ∈ u, p c)
    (hv : ∀ c ∈ v, p c) (hx : ∀ c ∈ x.head?, ¬p c) (hy : ∀ c ∈ y.head?, ¬p c)
    (h : u ++ x = v ++ y) : u = v := by
  induction u generalizing v with
  | nil =>
    cases v with
    | nil => rfl
    | cons c v =>
      rw [List.nil_append] at h
      exact absurd (hv c List.mem_cons_self) (hx c (by rw [h]; rfl))
  | cons c u ih =>
    cases v with
    | nil =>
      rw [List.nil_append] at h
      exact absurd (hu c List.mem_cons_self) (hy c (by rw [← h]; rfl))
    | cons d v =>
      obtain ⟨rfl, htail⟩ := List.cons.inj h
      rw [ih (fun e he => hu e (List.mem_cons_of_mem c he))
        (fun e he => hv e (List.mem_cons_of_mem c he)) htail]

/-- A closed pattern ends at the first letter that is not one of its own. -/
theorem Spells.unique_of_closed {a : Pattern ν} {u v x y : List Char} {c d : Captures ν}
    {follow : List Char} (ha : a.closed follow = true) (hu : Spells fold a u c)
    (hv : Spells fold a v d) (hx : Follows fold follow x) (hy : Follows fold follow y)
    (heq : u ++ x = v ++ y) : u = v ∧ c = d := by
  obtain ⟨hgrouped, hdisjoint⟩ := Bool.and_eq_true_iff.mp ha
  have hgrouped : a.grouped = false := by simpa using hgrouped
  refine ⟨eq_of_append_eq (p := fun z => fold z ∈ a.alphabet) hu.mem_alphabet hv.mem_alphabet
    (fun z hz hmem => disjoint_spec hdisjoint hmem (hx z hz))
    (fun z hz hmem => disjoint_spec hdisjoint hmem (hy z hz)) heq, ?_⟩
  rw [hu.captures_eq hgrouped, hv.captures_eq hgrouped]

/-- Texts of both alternatives begin with different letters. -/
theorem not_both {a b : Pattern ν} {u v x y : List Char} {c d : Captures ν} {follow : List Char}
    (hnull : (a.nullable && b.nullable) = false)
    (hdisjoint : Pattern.disjoint (a.lead follow) (b.lead follow) = true)
    (hu : Spells fold a u c) (hv : Spells fold b v d) (hx : Follows fold follow x)
    (hy : Follows fold follow y) : u ++ x ≠ v ++ y := by
  intro heq
  have hleft := hu.follows hx
  have hright := hv.follows hy
  rw [← heq] at hright
  cases hhead : u ++ x with
  | nil =>
    obtain ⟨hunil, -⟩ := List.append_eq_nil_iff.mp hhead
    obtain ⟨hvnil, -⟩ := List.append_eq_nil_iff.mp (heq.symm.trans hhead)
    rw [hu.nullable hunil, hv.nullable hvnil] at hnull
    cases hnull
  | cons z t =>
    rw [hhead] at hleft hright
    exact disjoint_spec hdisjoint (hleft z rfl) (hright z rfl)

/-- A decided pattern spells a text in one way, up to where what follows it begins. -/
theorem Spells.unique {a : Pattern ν} {u v x y : List Char} {c d : Captures ν}
    {follow : List Char} (ha : a.decided follow = true) (hu : Spells fold a u c)
    (hv : Spells fold a v d) (hx : Follows fold follow x) (hy : Follows fold follow y)
    (heq : u ++ x = v ++ y) : u = v ∧ c = d := by
  induction a generalizing u v x y c d follow with
  | text s =>
    cases hu with
    | text hu =>
      cases hv with
      | text hv =>
        have hlength := congrArg List.length (hu.trans hv.symm)
        rw [List.length_map, List.length_map] at hlength
        exact ⟨(List.append_inj heq hlength).1, rfl⟩
  | run letters least most =>
    rcases Bool.or_eq_true_iff.mp ha with hlength | hdisjoint
    · -- both runs have the one length
      obtain rfl := of_decide_eq_true hlength
      cases hu with
      | run hu hule hule' =>
        cases hv with
        | run hv hvle hvle' =>
          have hulength := hule' least rfl
          have hvlength := hvle' least rfl
          exact ⟨(List.append_inj heq (by omega)).1, rfl⟩
    · have hclosed : (Pattern.run letters least most : Pattern ν).closed follow = true :=
        Bool.and_eq_true_iff.mpr ⟨rfl, hdisjoint⟩
      exact hu.unique_of_closed hclosed hv hx hy heq
  | seq a b iha ihb =>
    rcases Bool.or_eq_true_iff.mp ha with hclosed | hparts
    · exact hu.unique_of_closed hclosed hv hx hy heq
    · obtain ⟨ha, hb⟩ := Bool.and_eq_true_iff.mp hparts
      cases hu with
      | seq hu₁ hu₂ =>
        cases hv with
        | seq hv₁ hv₂ =>
          -- what follows the first part begins with a leading letter of the second
          rw [List.append_assoc, List.append_assoc] at heq
          obtain ⟨rfl, rfl⟩ := iha ha hu₁ hv₁ (hu₂.follows hx) (hv₂.follows hy) heq
          obtain ⟨rfl, rfl⟩ := ihb hb hu₂ hv₂ hx hy (List.append_cancel_left heq)
          exact ⟨rfl, rfl⟩
  | alt a b iha ihb =>
    rcases Bool.or_eq_true_iff.mp ha with hclosed | hparts
    · exact hu.unique_of_closed hclosed hv hx hy heq
    · simp only [Bool.and_eq_true, Bool.not_eq_true'] at hparts
      obtain ⟨⟨⟨ha, hb⟩, hnull⟩, hdisjoint⟩ := hparts
      cases hu with
      | left hu =>
        cases hv with
        | left hv => exact iha ha hu hv hx hy heq
        | right hv => exact absurd heq (not_both hnull hdisjoint hu hv hx hy)
      | right hu =>
        cases hv with
        | left hv => exact absurd heq.symm (not_both hnull hdisjoint hv hu hy hx)
        | right hv => exact ihb hb hu hv hx hy heq
  | group name a ih =>
    cases hu with
    | group hu =>
      cases hv with
      | group hv =>
        obtain ⟨rfl, rfl⟩ := ih ha hu hv hx hy heq
        exact ⟨rfl, rfl⟩

/-- The match of a decided pattern is the one spelling of the text. -/
theorem fullmatch_eq_some {a : Pattern ν} {s : List Char} {c : Captures ν}
    (ha : a.decided [] = true) : fullmatch fold a s = some c ↔ Spells fold a s c := by
  constructor
  · exact fullmatch_spells
  · intro h
    obtain ⟨c', hc'⟩ := Option.isSome_iff_exists.mp (fullmatch_isSome h)
    have hnil : Follows fold [] [] := nofun
    rw [hc', (Spells.unique ha (fullmatch_spells hc') h hnil hnil rfl).2]

end Regex
