/-
What the parser of the supplier's statements accepts.

* `parseSupplierDisruption_ok` — a text is accepted exactly if all of it is one of the two
  sentences, with groups that state facts;
* `Statement` — what a supplier can state; `readFacts_statement` — nothing else is read.
-/
import Mathlib
import SupplyResponse.Domain.Inbound

namespace SupplyResponse

namespace Inbound

open Regex Calendar

variable {s : List Char} {values : Captures Blank}

/-- What holds of all letters of a list, by looking at each. -/
theorem of_all {p : Char → Prop} [DecidablePred p] {l : List Char}
    (h : (l.all fun c => p c) = true) {c : Char} (hc : c ∈ l) : p c :=
  of_decide_eq_true (List.all_eq_true.mp h c hc)

/-! ### The accepted texts -/

theorem statement_decided : statement.decided [] = true := by decide +kernel

theorem willStatement_decided : willStatement.decided [] = true := by decide +kernel

/-- A quantity begins with a digit. -/
theorem quantity_head {u : List Char} {c : Captures Blank} (h : Spells foldCase quantity u c) :
    ∃ x rest, u = x :: rest ∧ foldCase x ∈ "123456789".toList := by
  cases u with
  | nil => exact absurd (h.nullable rfl) (by decide)
  | cons x rest =>
    have hfirst := h.head_mem (x := x) rfl
    have hsubset : (quantity.first.all fun y => y ∈ "123456789".toList) = true := by
      decide +kernel
    exact ⟨x, rest, rfl, of_all hsubset hfirst⟩

/-- No text is both sentences: where one has a quantity, the other has a letter. -/
theorem not_both_sentences {d : Captures Blank} (h : Spells foldCase statement s values) :
    ¬Spells foldCase willStatement s d := by
  intro h'
  generalize hs : s = s' at h'
  rw [statement, Pattern.seqs, Pattern.seqs] at h
  rw [willStatement, Pattern.seqs, Pattern.seqs] at h'
  cases h with
  | @seq _ _ u x _ _ hwords hrest =>
    cases hrest with
    | @seq _ _ q y _ _ hquantity _ =>
      cases hquantity with
      | group hquantity =>
        obtain ⟨digit, rest, rfl, hdigit⟩ := quantity_head hquantity
        rcases hwords with ⟨hu⟩
        cases h' with
        | @seq _ _ f z _ _ hfyi hwill =>
          cases hwill with
          | @seq _ _ v w _ _ hwill _ =>
            rcases hwill with ⟨hv⟩
            -- the two readings of the text, folded
            have hfold := congrArg (List.map foldCase) hs
            simp only [List.map_append, List.map_cons, hu, hv] at hfold
            cases hfyi with
            | left hfyi =>
              rcases hfyi with ⟨hfyi⟩
              rw [hfyi] at hfold
              exact absurd (List.cons.inj hfold).1 (by decide)
            | right hfyi =>
              rcases hfyi with ⟨hfyi⟩
              rw [hfyi] at hfold
              -- both texts begin with the same thirty letters
              have hdrop := congrArg (List.drop 30) hfold
              have hhead := congrArg List.head? hdrop
              have hdigit' : foldCase digit = 't' := Option.some.inj hhead
              rw [hdigit'] at hdigit
              exact absurd hdigit (by decide)

theorem match?_eq_some :
    match? s = some values ↔
      Spells foldCase statement s values ∨ Spells foldCase willStatement s values := by
  rw [match?, Option.or_eq_some_iff, fullmatch_eq_some statement_decided,
    fullmatch_eq_some willStatement_decided]
  constructor
  · rintro (h | ⟨-, h⟩)
    · exact .inl h
    · exact .inr h
  · rintro (h | h)
    · exact .inl h
    · refine .inr ⟨?_, h⟩
      rw [Option.eq_none_iff_forall_ne_some]
      intro values' hvalues'
      exact not_both_sentences (fullmatch_spells hvalues') h

theorem parseSupplierDisruption_eq_ok {text : String} {facts : SupplierDisruptionFacts} :
    parseSupplierDisruption text = .ok facts ↔ text.length ≤ 16000 ∧
      ∃ values, match? (normalized text.toList) = some values ∧ readFacts values = some facts := by
  unfold parseSupplierDisruption
  by_cases hlength : 16000 < text.length
  · rw [if_pos hlength]
    exact ⟨nofun, fun h => absurd h.1 (by omega)⟩
  · rw [if_neg hlength, ← Option.bind_eq_some_iff]
    cases (match? (normalized text.toList)).bind readFacts with
    | none => exact ⟨nofun, fun h => nomatch h.2⟩
    | some facts' =>
      rw [Except.ok.injEq, Option.some.injEq]
      exact ⟨fun h => ⟨by omega, h⟩, fun h => h.2⟩

/-- A text is accepted exactly if all of it is one of the two sentences, with groups that state
facts; and no text is such a sentence with two different groups. -/
theorem parseSupplierDisruption_ok {text : String} :
    (∀ facts, parseSupplierDisruption text = .ok facts ↔
      text.length ≤ 16000 ∧ ∃ values, (Spells foldCase statement (normalized text.toList) values ∨
        Spells foldCase willStatement (normalized text.toList) values) ∧
          readFacts values = some facts) ∧
    {values | Spells foldCase statement (normalized text.toList) values ∨
      Spells foldCase willStatement (normalized text.toList) values}.Subsingleton := by
  constructor
  · intro facts
    rw [parseSupplierDisruption_eq_ok]
    exact and_congr_right fun _ => exists_congr fun values => and_congr_left fun _ => match?_eq_some
  · intro values hvalues values' hvalues'
    have hmatch := match?_eq_some.mpr hvalues
    rw [match?_eq_some.mpr hvalues'] at hmatch
    exact (Option.some.inj hmatch).symm

/-! ### The letters -/

theorem mem_letters {c : Char} (h : c.isLower = true) : c ∈ letters := by
  have hc : c = Char.ofNat c.toNat := (Char.ofNat_toNat c).symm
  have hbounds : 97 ≤ c.toNat ∧ c.toNat ≤ 122 := by
    simpa [Char.isLower, UInt32.le_iff_toNat_le] using h
  obtain ⟨hlow, hhigh⟩ := hbounds
  rw [hc]
  interval_cases c.toNat <;> decide

theorem toLower_mem_letters {c : Char} (h : c.isUpper = true) : c.toLower ∈ letters := by
  refine mem_letters ?_
  rw [Char.isLower_toLower_eq_isAlpha, Char.isAlpha, h, Bool.true_or]

/-- Folding changes letters only. -/
theorem foldCase_eq_self {c : Char} (h : foldCase c ∉ letters) : foldCase c = c := by
  unfold foldCase at h ⊢
  split_ifs at h ⊢
  · exact absurd h (by decide)
  · exact absurd h (by decide)
  · exact absurd h (by decide)
  · exact Char.toLower_eq_of_not_isUpper fun hupper => h (toLower_mem_letters hupper)

theorem mem_digits {c : Char} : c ∈ digits ↔ c.isDigit = true := by
  constructor
  · have hall : digits.all Char.isDigit = true := by decide
    exact List.all_eq_true.mp hall c
  · intro h
    have hc : c = Char.ofNat c.toNat := (Char.ofNat_toNat c).symm
    have hbounds : 48 ≤ c.toNat ∧ c.toNat ≤ 57 := by
      simpa [Char.isDigit, UInt32.le_iff_toNat_le] using h
    obtain ⟨hlow, hhigh⟩ := hbounds
    rw [hc]
    interval_cases c.toNat <;> decide

theorem digits_disjoint : Pattern.disjoint digits letters = true := by decide

theorem foldCase_digit {c : Char} (h : foldCase c ∈ digits) : c.isDigit = true := by
  rw [foldCase_eq_self (disjoint_spec digits_disjoint h)] at h
  exact mem_digits.mp h

/-- The upper case is that of the folded letter, if no other letters fold to it. -/
theorem toUpper_foldCase {c : Char} (h : foldCase c ∉ ['i', 's', 'k']) :
    (foldCase c).toUpper = c.toUpper := by
  unfold foldCase at h ⊢
  split_ifs at h ⊢
  · exact absurd h (by decide)
  · exact absurd h (by decide)
  · exact absurd h (by decide)
  · exact Char.toUpper_toLower_eq_toUpper c

/-! ### What the groups hold -/

/-- The value of a name is a text of the pattern. -/
def Captured (values : Captures Blank) (key : Blank) (b : Pattern Blank) : Prop :=
  ∃ d, Spells foldCase b (valueOf values key) d

/-- The groups that both sentences have, with one pattern each. -/
def commonGroups : List (Blank × Pattern Blank) :=
  [(.original, quantity), (.partialQuantity, quantity), (.remaining, quantity),
    (.part, partPattern), (.cost, costPattern)]

theorem captured_of_groups {a : Pattern Blank} (h : Spells foldCase a s values)
    (hplain : a.plain = true) {g : Blank × Pattern Blank}
    (hg : g.1 ∈ a.groups.map Prod.fst ∧ ∀ p ∈ a.groups, p.1 = g.1 → p.2 = g.2) :
    Captured values g.1 g.2 := by
  obtain ⟨v, b, d, hv, hmem, hb⟩ := h.lookup hplain hg.1
  -- there is one group of the name
  have hpattern : b = g.2 := hg.2 _ hmem rfl
  subst hpattern
  refine ⟨d, ?_⟩
  rw [valueOf, hv]
  exact hb

/-- Both sentences hold quantities, a part and a cost. -/
theorem captured_of_sentence
    (h : Spells foldCase statement s values ∨ Spells foldCase willStatement s values)
    {g : Blank × Pattern Blank} (hg : g ∈ commonGroups) : Captured values g.1 g.2 := by
  have hstatement : ∀ g ∈ commonGroups, g.1 ∈ statement.groups.map Prod.fst ∧
      ∀ p ∈ statement.groups, p.1 = g.1 → p.2 = g.2 := by decide +kernel
  have hwill : ∀ g ∈ commonGroups, g.1 ∈ willStatement.groups.map Prod.fst ∧
      ∀ p ∈ willStatement.groups, p.1 = g.1 → p.2 = g.2 := by decide +kernel
  rcases h with h | h
  · exact captured_of_groups h (by decide +kernel) (hstatement g hg)
  · exact captured_of_groups h (by decide +kernel) (hwill g hg)

/-! ### What a supplier can state -/

/-- A delivery that is short, with a part of it offered by air. -/
structure Statement where
  partNumber : List Char
  due : CalendarDate
  partialDue : CalendarDate
  partialQuantity : ℕ
  remaining : ℕ
  cents : ℕ
  partNumber_ne : partNumber ≠ []
  partNumber_digits : ∀ c ∈ partNumber, c.isDigit = true
  partial_pos : 0 < partialQuantity
  remaining_pos : 0 < remaining
  original_lt : partialQuantity + remaining < 10 ^ 9
  due_le : due.ordinal ≤ partialDue.ordinal

def Statement.facts (s : Statement) : SupplierDisruptionFacts where
  originalQuantity := s.partialQuantity + s.remaining
  partId := String.ofList ("RL-MAT-".toList ++ s.partNumber)
  plantName := "Chicago"
  originalDueDate := s.due.ordinal
  partialQuantity := s.partialQuantity
  partialDueDate := s.partialDue.ordinal
  additionalCostPerUnit := s.cents / 100
  remainingQuantity := s.remaining
  recoveryDate := none

theorem int?_eq_some {value : List Char} {n : ℕ} :
    int? value = some n ↔
      value ≠ [] ∧ (∀ c ∈ value, c.isDigit = true) ∧ Nat.ofDigitChars 10 value 0 = n := by
  unfold int?
  rw [← List.all_eq_true]
  split_ifs with h
  · rw [Option.some.injEq]
    exact ⟨fun hn => ⟨h.1, h.2, hn⟩, fun hn => hn.2.2⟩
  · exact ⟨nofun, fun hn => absurd ⟨hn.1, hn.2.1⟩ h⟩

theorem isDigit_bounds {c : Char} (h : c.isDigit = true) : 48 ≤ c.toNat ∧ c.toNat ≤ 57 := by
  simpa [Char.isDigit, UInt32.le_iff_toNat_le] using h

theorem ofDigitChars_lt {value : List Char} (h : ∀ c ∈ value, c.isDigit = true) :
    Nat.ofDigitChars 10 value 0 < 10 ^ value.length := by
  induction value with
  | nil => simp
  | cons c value ih =>
    have hc := (isDigit_bounds (h c List.mem_cons_self)).2
    have hrest := ih fun d hd => h d (List.mem_cons_of_mem c hd)
    have hzero : '0'.toNat = 48 := rfl
    have hle : 10 ^ value.length * (c.toNat - 48) ≤ 10 ^ value.length * 9 :=
      Nat.mul_le_mul_left _ (by omega)
    rw [Nat.ofDigitChars_cons, Nat.ofDigitChars_eq_ofDigitChars_zero, List.length_cons, pow_succ,
      Nat.mul_zero, Nat.zero_add, hzero]
    omega

/-- A run of digits. -/
theorem digits_of_run {least : ℕ} {most : Option ℕ} {u : List Char} {d : Captures Blank}
    (h : Spells foldCase (.run digits least most) u d) :
    (∀ c ∈ u, c.isDigit = true) ∧ least ≤ u.length ∧ ∀ n ∈ most, u.length ≤ n := by
  cases h with
  | run mem hleast hmost => exact ⟨fun c hc => foldCase_digit (mem c hc), hleast, hmost⟩

/-- A sign is spelled by itself. -/
theorem eq_of_text {sign : Char} (hsign : sign ∉ letters)
    {u : List Char} {d : Captures Blank} (h : Spells foldCase (.text [sign]) u d) : u = [sign] := by
  cases h with
  | text h =>
    obtain ⟨x, rfl, hx⟩ := List.map_eq_singleton_iff.mp h
    have hself : foldCase x = x := foldCase_eq_self (by rw [hx]; exact hsign)
    rw [← hx, hself]

theorem thousandsGroup_length {u : List Char} {d : Captures Blank}
    (h : Spells foldCase thousandsGroup u d) : (u.filter (· ≠ ',')).length ≤ 3 := by
  cases h with
  | @seq _ _ u v _ _ hcomma hdigits =>
    obtain rfl : u = [','] := eq_of_text (by decide) hcomma
    have hlength := (digits_of_run hdigits).2.2 3 rfl
    have hfilter := List.length_filter_le (· ≠ ',') v
    rw [List.filter_append, List.length_append]
    simp only [ne_eq, decide_not, List.filter_cons, decide_true, Bool.not_true]
    simp only [ne_eq, decide_not] at hfilter
    simp
    omega

/-- A quantity has at most nine digits. -/
theorem quantity_length {u : List Char} {d : Captures Blank} (h : Spells foldCase quantity u d) :
    (u.filter (· ≠ ',')).length ≤ 9 := by
  have hle : ∀ v : List Char, (v.filter (· ≠ ',')).length ≤ v.length :=
    fun v => List.length_filter_le _ v
  cases h with
  | left h =>
    cases h with
    | @seq _ _ v w _ _ hfirst hrest =>
      rcases hfirst with _ | ⟨-, -, hfirst⟩
      have hv := hfirst 1 rfl
      have hw := (digits_of_run hrest).2.2 8 rfl
      have hfilter := hle (v ++ w)
      rw [List.length_append] at hfilter
      omega
  | right h =>
    -- one digit, up to two more, a group and perhaps another one
    rw [Pattern.seqs, Pattern.seqs, Pattern.seqs, Pattern.seqs, Pattern.seqs] at h
    cases h with
    | @seq _ _ v₁ _ _ _ h₁ h =>
      cases h with
      | @seq _ _ v₂ _ _ _ h₂ h =>
        cases h with
        | @seq _ _ v₃ _ _ _ h₃ h =>
          cases h with
          | @seq _ _ v₄ v₅ _ _ h₄ h₅ =>
            rcases h₁ with _ | ⟨-, -, h₁⟩
            have hv₁ := h₁ 1 rfl
            have hv₂ := (digits_of_run h₂).2.2 2 rfl
            have hv₃ := thousandsGroup_length h₃
            have hv₄ : (v₄.filter (· ≠ ',')).length ≤ 3 := by
              cases h₄ with
              | left h₄ => exact thousandsGroup_length h₄
              | right h₄ =>
                cases h₄ with
                | text h₄ =>
                  obtain rfl := List.map_eq_nil_iff.mp h₄
                  exact Nat.zero_le _
            have hv₅ : v₅ = [] := by
              cases h₅ with
              | text h₅ => exact List.map_eq_nil_iff.mp h₅
            have hfilter₁ := hle v₁
            have hfilter₂ := hle v₂
            rw [hv₅, List.append_nil, List.filter_append, List.filter_append, List.filter_append,
              List.length_append, List.length_append, List.length_append]
            omega

theorem quantity_lt {u : List Char} {d : Captures Blank} {n : ℕ}
    (h : Spells foldCase quantity u d) (hn : quantity? u = some n) : n < 10 ^ 9 := by
  obtain ⟨-, hdigits, rfl⟩ := int?_eq_some.mp hn
  calc Nat.ofDigitChars 10 (u.filter (· ≠ ',')) 0
      < 10 ^ (u.filter (· ≠ ',')).length := ofDigitChars_lt hdigits
    _ ≤ 10 ^ 9 := Nat.pow_le_pow_right (by decide) (quantity_length h)

/-- A cost is a number of cents. -/
theorem cost_cents {u : List Char} {d : Captures Blank} {cost : Money}
    (h : Spells foldCase costPattern u d) (hcost : decimal? u = some cost) :
    ∃ cents : ℕ, cost = cents / 100 := by
  rw [costPattern, Pattern.seqs, Pattern.seqs, Pattern.seqs, Pattern.seqs] at h
  cases h with
  | @seq _ _ w _ _ _ hw h =>
    cases h with
    | @seq _ _ v _ _ _ hv h =>
      cases h with
      | @seq _ _ f e _ _ hf he =>
        obtain rfl : v = ['.'] := eq_of_text (by decide) hv
        obtain rfl : e = [] := by
          cases he with
          | text he => exact List.map_eq_nil_iff.mp he
        -- the point is the first one, since there is none among the digits
        have hwhole : ∀ c ∈ w, decide (c ≠ '.') = true := by
          intro c hc
          have hdigit := (digits_of_run hw).1 c hc
          refine decide_eq_true fun hdot => ?_
          rw [hdot] at hdigit
          exact absurd hdigit (by decide)
        have hdrop : (w ++ (['.'] ++ (f ++ []))).dropWhile (· ≠ '.') = '.' :: f := by
          rw [List.dropWhile_append_of_pos hwhole]
          simp
        have hlength : f.length = 2 :=
          Nat.le_antisymm ((digits_of_run hf).2.2 2 rfl) (digits_of_run hf).2.1
        unfold decimal? at hcost
        rw [hdrop] at hcost
        obtain ⟨whole, -, hcost⟩ := Option.bind_eq_some_iff.mp hcost
        obtain ⟨rest, -, hcost⟩ := Option.bind_eq_some_iff.mp hcost
        obtain rfl := Option.some.inj hcost
        rw [List.drop_succ_cons, List.drop_zero, hlength]
        refine ⟨whole * 100 + rest, ?_⟩
        push_cast
        ring

theorem toUpper_digits {u : List Char} (hu : ∀ c ∈ u, c.isDigit = true) :
    u.map Char.toUpper = u := by
  refine (List.map_congr_left fun c hc => ?_).trans (List.map_id u)
  refine Char.toUpper_eq_of_not_isLower fun hlower => ?_
  have hdigit := isDigit_bounds (hu c hc)
  have hletter : 97 ≤ c.toNat ∧ c.toNat ≤ 122 := by
    simpa [Char.isLower, UInt32.le_iff_toNat_le] using hlower
  omega

/-- A part is its beginning with a number. -/
theorem part_number {u : List Char} {d : Captures Blank} (h : Spells foldCase partPattern u d) :
    ∃ number, number ≠ [] ∧ (∀ c ∈ number, c.isDigit = true) ∧
      u.map Char.toUpper = "RL-MAT-".toList ++ number := by
  cases h with
  | @seq _ _ v w _ _ hv hw =>
    obtain ⟨hdigits, hlength, -⟩ := digits_of_run hw
    refine ⟨w, fun hw => ?_, hdigits, ?_⟩
    · rw [hw] at hlength
      exact absurd hlength (by decide)
    · -- no letter outside ASCII folds to one of the beginning
      have hbeginning : v.map Char.toUpper = "RL-MAT-".toList := by
        cases hv with
        | text hv =>
          have hnone : (("RL-MAT-".toList.map foldCase).all
              fun c => c ∉ ['i', 's', 'k']) = true := by decide +kernel
          have hupper : v.map Char.toUpper = (v.map foldCase).map Char.toUpper := by
            rw [List.map_map]
            refine List.map_congr_left fun c hc => (toUpper_foldCase ?_).symm
            have hmem : foldCase c ∈ "RL-MAT-".toList.map foldCase := by
              rw [← hv]
              exact List.mem_map_of_mem hc
            exact of_all hnone hmem
          rw [hupper, hv]
          decide +kernel
      rw [List.map_append, hbeginning, toUpper_digits hdigits]

/-- Facts are read off the groups only if a supplier can state them. -/
theorem readFacts_statement {facts : SupplierDisruptionFacts}
    (h : Spells foldCase statement s values ∨ Spells foldCase willStatement s values)
    (hread : readFacts values = some facts) : ∃ st : Statement, st.facts = facts := by
  obtain ⟨_, horiginal⟩ := captured_of_sentence h (g := (.original, quantity)) (by decide +kernel)
  obtain ⟨_, hpart⟩ := captured_of_sentence h (g := (.part, partPattern)) (by decide +kernel)
  obtain ⟨_, hcost⟩ := captured_of_sentence h (g := (.cost, costPattern)) (by decide +kernel)
  unfold readFacts at hread
  obtain ⟨original, hn, hread⟩ := Option.bind_eq_some_iff.mp hread
  obtain ⟨partialQuantity, -, hread⟩ := Option.bind_eq_some_iff.mp hread
  obtain ⟨remaining, -, hread⟩ := Option.bind_eq_some_iff.mp hread
  obtain ⟨due, -, hread⟩ := Option.bind_eq_some_iff.mp hread
  obtain ⟨partialDue, -, hread⟩ := Option.bind_eq_some_iff.mp hread
  obtain ⟨cost, hdecimal, hread⟩ := Option.bind_eq_some_iff.mp hread
  split_ifs at hread with hchecks
  obtain rfl := Option.some.inj hread
  obtain ⟨-, hoffered, -, hremaining, rfl, hle⟩ := hchecks
  -- what the expressions leave open, the checks have decided
  obtain ⟨cents, rfl⟩ := cost_cents hcost hdecimal
  obtain ⟨number, hne, hdigits, hupper⟩ := part_number hpart
  refine ⟨{ partNumber := number, due, partialDue, partialQuantity, remaining, cents,
            partNumber_ne := hne, partNumber_digits := hdigits, partial_pos := hoffered,
            remaining_pos := hremaining, original_lt := quantity_lt horiginal hn,
            due_le := not_lt.mp hle }, ?_⟩
  rw [Statement.facts, hupper]

end Inbound

end SupplyResponse
