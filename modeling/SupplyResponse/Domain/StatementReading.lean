/-
Reading what a supplier writes.

* `readFacts_lowerValues` — the case of the letters does not count;
* `normalized_write` — a written sentence has single spaces, as the parser leaves them;
* `parseSupplierDisruption_write` — every statement is read back, and nothing else is ever read.
-/
import SupplyResponse.Domain.WrittenStatement

namespace SupplyResponse

namespace Inbound

open Regex Calendar

variable {s : List Char} {values : Captures Blank}

/-! ### The case of the letters -/

theorem isDigit_toLower (c : Char) : c.toLower.isDigit = c.isDigit := by
  by_cases hupper : c.isUpper = true
  · -- neither a capital letter nor its small one is a digit
    have hbounds : 65 ≤ c.toNat ∧ c.toNat ≤ 90 := by
      simpa [Char.isUpper, UInt32.le_iff_toNat_le] using hupper
    have hleft : c.toLower.isDigit ≠ true := fun h =>
      disjoint_spec digits_disjoint (mem_digits.mpr h) (toLower_mem_letters hupper)
    have hright : c.isDigit ≠ true := fun h => by
      have hdigit := isDigit_bounds h
      omega
    rw [Bool.eq_false_iff.mpr hleft, Bool.eq_false_iff.mpr hright]
  · rw [Char.toLower_eq_of_not_isUpper hupper]

/-- Only a sign is its own small letter. -/
theorem toLower_eq_sign {c z : Char} (hsign : z ∉ letters) (hself : z.toLower = z) :
    c.toLower = z ↔ c = z := by
  constructor
  · intro h
    by_cases hupper : c.isUpper = true
    · exact absurd (toLower_mem_letters hupper) (h ▸ hsign : c.toLower ∉ letters)
    · rwa [Char.toLower_eq_of_not_isUpper hupper] at h
  · rintro rfl
    exact hself

theorem ne_sign_comp {z : Char} (hsign : z ∉ letters) (hself : z.toLower = z) :
    ((fun c => decide (c ≠ z)) ∘ Char.toLower) = fun c => decide (c ≠ z) := by
  funext c
  rw [Function.comp_apply, decide_eq_decide, ne_eq, toLower_eq_sign hsign hself]

theorem toLower_digits {u : List Char} (hu : ∀ c ∈ u, c.isDigit = true) :
    u.map Char.toLower = u := by
  refine (List.map_congr_left fun c hc => ?_).trans (List.map_id u)
  refine Char.toLower_eq_of_not_isUpper fun hupper => ?_
  have hdigit := isDigit_bounds (hu c hc)
  have hletter : 65 ≤ c.toNat ∧ c.toNat ≤ 90 := by
    simpa [Char.isUpper, UInt32.le_iff_toNat_le] using hupper
  omega

theorem int?_toLower (u : List Char) : int? (u.map Char.toLower) = int? u := by
  have hdigits : (∀ c ∈ u.map Char.toLower, c.isDigit = true) ↔ ∀ c ∈ u, c.isDigit = true := by
    rw [List.forall_mem_map]
    exact forall₂_congr fun c _ => by rw [isDigit_toLower]
  refine Option.ext fun n => ?_
  rw [int?_eq_some, int?_eq_some, hdigits, ne_eq, List.map_eq_nil_iff]
  refine and_congr_right fun _ => and_congr_right fun hu => ?_
  rw [toLower_digits hu]

theorem quantity?_toLower (u : List Char) : quantity? (u.map Char.toLower) = quantity? u := by
  rw [quantity?, List.filter_map, ne_sign_comp (by decide) (by decide), int?_toLower, quantity?]

theorem takeWhile_toLower {z : Char} (hsign : z ∉ letters) (hself : z.toLower = z)
    (u : List Char) :
    (u.map Char.toLower).takeWhile (· ≠ z) = (u.takeWhile (· ≠ z)).map Char.toLower := by
  rw [List.takeWhile_map, ne_sign_comp hsign hself]

theorem dropWhile_toLower {z : Char} (hsign : z ∉ letters) (hself : z.toLower = z)
    (u : List Char) :
    (u.map Char.toLower).dropWhile (· ≠ z) = (u.dropWhile (· ≠ z)).map Char.toLower := by
  rw [List.dropWhile_map, ne_sign_comp hsign hself]

theorem decimal?_toLower (u : List Char) : decimal? (u.map Char.toLower) = decimal? u := by
  unfold decimal?
  simp only [takeWhile_toLower (z := '.') (by decide) (by decide),
    dropWhile_toLower (z := '.') (by decide) (by decide), int?_toLower, ← List.map_drop,
    List.length_map]

theorem startsWithDigit_toLower (u : List Char) :
    startsWithDigit (u.map Char.toLower) = startsWithDigit u := by
  cases u with
  | nil => rfl
  | cons c u => exact isDigit_toLower c

theorem getElem?_toLower {z : Char} (hsign : z ∉ letters) (hself : z.toLower = z)
    (u : List Char) (n : ℕ) : (u.map Char.toLower)[n]? = some z ↔ u[n]? = some z := by
  rw [List.getElem?_map, Option.map_eq_some_iff]
  constructor
  · rintro ⟨c, hc, hlower⟩
    rw [hc, (toLower_eq_sign hsign hself).mp hlower]
  · intro h
    exact ⟨z, h, hself⟩

theorem fromIsoFormat_toLower (u : List Char) :
    fromIsoFormat (u.map Char.toLower) = fromIsoFormat u := by
  unfold fromIsoFormat
  simp only [List.length_map, getElem?_toLower (z := '-') (by decide) (by decide),
    ← List.map_take, ← List.map_drop, int?_toLower]

theorem strptime_toLower (u : List Char) : strptime (u.map Char.toLower) = strptime u := by
  have htake : ∀ v : List Char, (v.map Char.toLower).take 2 = ", ".toList ↔
      v.take 2 = ", ".toList := by
    have hlist : ", ".toList = [',', ' '] := by decide +kernel
    intro v
    rw [hlist]
    rcases v with _ | ⟨c, _ | ⟨d, v⟩⟩
    · rfl
    · simp
    · have hcomma := toLower_eq_sign (c := c) (z := ',') (by decide) (by decide)
      have hspace := toLower_eq_sign (c := d) (z := ' ') (by decide) (by decide)
      simp only [List.map_cons, List.take_succ_cons, List.take_zero, List.cons.injEq,
        and_true, hcomma, hspace]
  unfold strptime
  rw [takeWhile_toLower (z := ' ') (by decide) (by decide),
    dropWhile_toLower (z := ' ') (by decide) (by decide), ← List.map_drop]
  simp only [takeWhile_toLower (z := ',') (by decide) (by decide),
    dropWhile_toLower (z := ',') (by decide) (by decide), int?_toLower, ← List.map_drop,
    List.length_map, htake, List.map_map]
  have hlower : Char.toLower ∘ Char.toLower = Char.toLower :=
    funext fun c => Char.toLower_toLower_eq_toLower c
  rw [hlower]

theorem date_toLower (u : List Char) : date (u.map Char.toLower) = date u := by
  rw [date, startsWithDigit_toLower, fromIsoFormat_toLower, strptime_toLower, date]

/-! ### The whole text -/

/-- The captures of the text in small letters. -/
def lowerValues (values : Captures Blank) : Captures Blank :=
  values.map (Prod.map id (List.map Char.toLower))

theorem valueOf_lowerValues (values : Captures Blank) (key : Blank) :
    valueOf (lowerValues values) key = (valueOf values key).map Char.toLower := by
  induction values with
  | nil => rfl
  | cons p values ih =>
    unfold valueOf lowerValues at ih ⊢
    rw [List.map_cons, List.lookup_cons, List.lookup_cons]
    cases hkey : key == p.1 with
    | true => simp [Prod.map, hkey]
    | false => simpa [Prod.map, hkey] using ih

theorem withYear_toLower (u : List Char) (due : CalendarDate) :
    withYear (u.map Char.toLower) due = (withYear u due).map Char.toLower := by
  have hcomma : ',' ∈ u.map Char.toLower ↔ ',' ∈ u := by
    rw [List.mem_map]
    constructor
    · rintro ⟨c, hc, hlower⟩
      rwa [← (toLower_eq_sign (by decide) (by decide)).mp hlower]
    · exact fun h => ⟨',', h, by decide⟩
  have hyear : (toString due.year).toList.map Char.toLower = (toString due.year).toList := by
    have hdigits : (toString due.year).toList = number due.year := Nat.toList_repr
    rw [hdigits, toLower_digits (number_digits _)]
  unfold withYear
  simp only [startsWithDigit_toLower, hcomma]
  split_ifs
  · rw [List.map_append, List.map_append, hyear]
    rfl
  · rfl

/-- The facts do not depend on the case of the letters. -/
theorem readFacts_lowerValues (values : Captures Blank) :
    readFacts (lowerValues values) = readFacts values := by
  have hupper : Char.toUpper ∘ Char.toLower = Char.toUpper :=
    funext fun c => Char.toUpper_toLower_eq_toUpper c
  unfold readFacts
  simp only [valueOf_lowerValues, quantity?_toLower, date_toLower, withYear_toLower,
    decimal?_toLower, List.map_map, hupper]

theorem foldCase_toLower (c : Char) : foldCase c.toLower = foldCase c := by
  by_cases hupper : c.isUpper = true
  · have hlower : c.toLower.isLower = true := by
      rw [Char.isLower_toLower_eq_isAlpha, Char.isAlpha, hupper, Bool.true_or]
    -- neither the letter nor its small one is outside ASCII
    have hletter : ∀ z : Char, z.isLower = false → z.isUpper = false → c ≠ z ∧ c.toLower ≠ z := by
      intro z hz hz'
      refine ⟨?_, ?_⟩
      · rintro rfl
        rw [hupper] at hz'
        cases hz'
      · rintro rfl
        rw [hlower] at hz
        cases hz
    have h₁ := hletter '\u0130' (by decide) (by decide)
    have h₂ := hletter '\u0131' (by decide) (by decide)
    have h₃ := hletter '\u017f' (by decide) (by decide)
    have h₄ := hletter '\u212a' (by decide) (by decide)
    unfold foldCase
    rw [if_neg (not_or.mpr ⟨h₁.2, h₂.2⟩), if_neg h₃.2, if_neg h₄.2,
      if_neg (not_or.mpr ⟨h₁.1, h₂.1⟩), if_neg h₃.1, if_neg h₄.1, Char.toLower_toLower_eq_toLower]
  · rw [Char.toLower_eq_of_not_isUpper hupper]

/-- A written statement is read, whatever the case of its letters. -/
theorem spells_write_of_lower (st : Statement) (sentence : Sentence)
    (hs : s.map Char.toLower = (st.write sentence).map Char.toLower) :
    ∃ values, Spells foldCase sentence.pattern s values ∧ readFacts values = some st.facts := by
  -- the small letters of both texts are the same, and they spell the sentence
  have hlower : Spells foldCase sentence.pattern (s.map Char.toLower)
      (lowerValues (st.blanks sentence)) := by
    rw [hs]
    exact (spells_map foldCase_toLower).mpr ⟨_, spells_write st sentence, rfl⟩
  obtain ⟨values, hvalues, hlowerValues⟩ := (spells_map foldCase_toLower).mp hlower
  have hsame : lowerValues (st.blanks sentence) = lowerValues values := hlowerValues
  refine ⟨values, hvalues, ?_⟩
  rw [← readFacts_lowerValues, ← hsame, readFacts_lowerValues, readFacts_blanks]

/-! ### Single spaces -/

/-- Whether a text that goes on after a space, or after another letter, has spaces between its
words only: whether it ends with a space, and `none` if it has not. -/
def spacing : Bool → List Char → Option Bool
  | space, [] => some space
  | space, c :: rest =>
    if c = ' ' then (if space then none else spacing true rest)
    else if isSpace c then none else spacing false rest

theorem spacing_append (b : Bool) (u v : List Char) :
    spacing b (u ++ v) = (spacing b u).bind (spacing · v) := by
  induction u generalizing b with
  | nil => rfl
  | cons c u ih =>
    rw [List.cons_append, spacing, spacing]
    split_ifs
    · rfl
    · exact ih true
    · rfl
    · exact ih false

/-- A word has no space. -/
theorem spacing_word {u : List Char} (hne : u ≠ []) (hu : ∀ c ∈ u, isSpace c = false) (b : Bool) :
    spacing b u = some false := by
  induction u generalizing b with
  | nil => exact absurd rfl hne
  | cons c u ih =>
    have hc := hu c List.mem_cons_self
    have hspace : c ≠ ' ' := by
      rintro rfl
      exact absurd hc (by decide)
    rw [spacing, if_neg hspace, hc, if_neg (by decide)]
    cases u with
    | nil => rfl
    | cons d u => exact ih (by simp) (fun e he => hu e (List.mem_cons_of_mem c he)) false

theorem splitWords_cons {w v : List Char} {z : Char} (hne : w ≠ [])
    (hw : ∀ c ∈ w, isSpace c = false) (hz : isSpace z = true) :
    splitWords (w ++ z :: v) = w :: splitWords v := by
  rw [splitWords, List.splitOnP_append_cons_of_forall_mem hw z hz,
    List.filter_cons, if_pos (decide_eq_true hne)]
  rfl

theorem splitWords_word {w : List Char} (hne : w ≠ []) (hw : ∀ c ∈ w, isSpace c = false) :
    splitWords w = [w] := by
  rw [splitWords, List.splitOnP_eq_singleton hw, List.filter_cons, if_pos (decide_eq_true hne)]
  rfl

/-- A text with single spaces between its words is as it was normalized. -/
theorem normalized_of_spacing (s : List Char) :
    (spacing false s = some false → ∀ w, w ≠ [] → (∀ c ∈ w, isSpace c = false) →
      normalized (w ++ s) = w ++ s) ∧ (spacing true s = some false → normalized s = s ∧ s ≠ []) := by
  induction s with
  | nil =>
    refine ⟨fun _ w hne hw => ?_, nofun⟩
    rw [List.append_nil, normalized, splitWords_word hne hw, List.intercalate_singleton]
  | cons c s ih =>
    have hnext : ∀ w, w ≠ [] → (∀ c ∈ w, isSpace c = false) → isSpace c = false →
        spacing false s = some false → normalized (w ++ c :: s) = w ++ c :: s := by
      intro w hne hw hc hs
      have hword : ∀ d ∈ w ++ [c], isSpace d = false := by
        intro d hd
        rcases List.mem_append.mp hd with hd | hd
        · exact hw d hd
        · rw [List.mem_singleton.mp hd]
          exact hc
      have hlonger := ih.1 hs (w ++ [c]) (by simp) hword
      rwa [List.append_assoc, List.singleton_append] at hlonger
    by_cases hc : c = ' '
    · subst hc
      refine ⟨fun hs w hne hw => ?_, nofun⟩
      -- the word ends here, and the next one begins
      obtain ⟨hrest, hrestNe⟩ := ih.2 hs
      have hwords : splitWords s ≠ [] := by
        intro hnil
        rw [normalized, hnil] at hrest
        exact hrestNe hrest.symm
      rw [normalized, splitWords_cons hne hw (by decide), List.intercalate_cons_of_ne_nil hwords]
      rw [normalized] at hrest
      rw [hrest, List.append_assoc]
      rfl
    · have hafter : ∀ b, spacing b (c :: s) = some false →
          isSpace c = false ∧ spacing false s = some false := by
        intro b hs
        rw [spacing, if_neg hc] at hs
        split_ifs at hs with hspace
        exact ⟨Bool.eq_false_iff.mpr hspace, hs⟩
      constructor
      · intro hs w hne hw
        obtain ⟨hspace, hs⟩ := hafter false hs
        exact hnext w hne hw hspace hs
      · intro hs
        obtain ⟨hspace, hs⟩ := hafter true hs
        have hword : ∀ d ∈ [c], isSpace d = false := by
          intro d hd
          rw [List.mem_singleton.mp hd]
          exact hspace
        exact ⟨ih.1 hs [c] (by simp) hword, by simp⟩

theorem spacing_words {b z : Bool} {w : String} (hw : spacing b w.toList = some z)
    (v : List Char) : spacing b (w.toList ++ v) = spacing z v := by
  rw [spacing_append, hw, Option.bind_some]

theorem spacing_value {u : List Char} (hu : ∀ b, spacing b u = some false) (b : Bool)
    (v : List Char) : spacing b (u ++ v) = spacing false v := by
  rw [spacing_append, hu, Option.bind_some]

theorem isSpace_of_isDigit {c : Char} (h : c.isDigit = true) : isSpace c = false := by
  have hall : (digits.all fun d => isSpace d = false) = true := by decide +kernel
  exact of_all hall (mem_digits.mpr h)

theorem spacing_number (n : ℕ) (b : Bool) : spacing b (number n) = some false :=
  spacing_word Nat.toDigits_ne_nil (fun c hc => isSpace_of_isDigit (number_digits n c hc)) b

theorem spacing_sign {u v : List Char} {c : Char} (hu : ∀ b, spacing b u = some false)
    (hc : spacing false [c] = some false) (hv : ∀ b, spacing b v = some false) (b : Bool) :
    spacing b (u ++ c :: v) = some false := by
  rw [spacing_value hu, ← List.singleton_append, spacing_append, hc, Option.bind_some, hv]

theorem spacing_padded {width : ℕ} (n : ℕ) (b : Bool) : spacing b (padded width n) = some false := by
  refine spacing_word (fun h => ?_)
    (fun c hc => isSpace_of_isDigit (padded_digits width n c hc)) b
  exact Nat.toDigits_ne_nil (List.append_eq_nil_iff.mp h).2

theorem spacing_commaNumber (n : ℕ) (b : Bool) : spacing b (commaNumber n) = some false := by
  unfold commaNumber
  split_ifs
  · exact spacing_number n b
  · exact spacing_sign (spacing_number _) (by decide) (spacing_padded _) b
  · exact spacing_sign (spacing_sign (spacing_number _) (by decide) (spacing_padded _))
      (by decide) (spacing_padded _) b

theorem spacing_costText (cents : ℕ) (b : Bool) : spacing b (costText cents) = some false :=
  spacing_sign (spacing_number _) (by decide) (spacing_padded _) b

theorem spacing_isoDate (d : CalendarDate) (b : Bool) : spacing b (isoDate d) = some false :=
  spacing_sign (spacing_padded _)
    (by decide) (spacing_sign (spacing_padded _) (by decide) (spacing_padded _)) b

theorem spacing_monthAndDay (d : CalendarDate) (b : Bool) :
    spacing b (monthAndDay d) = some false := by
  have hname : ∀ b, spacing b (monthNames.getD (d.month - 1) []) = some false := by
    refine fun b => spacing_word (monthName_spec d).2.2.2.2 (fun c hc => ?_) b
    have hall : (letters.all fun d => isSpace d = false) = true := by decide +kernel
    exact of_all hall (mem_monthName hc)
  rw [monthAndDay, spacing_value hname]
  exact spacing_number d.day true

theorem spacing_longDate (d : CalendarDate) (b : Bool) : spacing b (longDate d) = some false := by
  rw [longDate, spacing_value (spacing_monthAndDay d)]
  exact spacing_padded d.year true

theorem spacing_partialDate (st : Statement) (b : Bool) : spacing b st.partialDate = some false := by
  unfold Statement.partialDate
  split_ifs
  · exact spacing_monthAndDay _ b
  · exact spacing_longDate _ b

theorem spacing_part (st : Statement) (b : Bool) : spacing b st.part = some false := by
  have hbeginning : ∀ b, spacing b "RL-MAT-".toList = some false := by decide +kernel
  unfold Statement.part
  rw [spacing_value hbeginning]
  exact spacing_word st.partNumber_ne
    (fun c hc => isSpace_of_isDigit (st.partNumber_digits c hc)) false

/-- The written sentence has single spaces. -/
theorem spacing_write (st : Statement) (sentence : Sentence) :
    spacing true (st.write sentence) = some false := by
  have hplant : ∀ b, spacing b "Chicago".toList = some false := by decide +kernel
  cases sentence with
  | statement =>
    simp only [Statement.write, Statement.pieces, words, filled, List.flatMap_cons,
      List.flatMap_nil]
    rw [spacing_words (z := true) (by decide +kernel), spacing_value (spacing_number _),
      spacing_words (z := true) (by decide +kernel), spacing_value (spacing_part st),
      spacing_words (z := true) (by decide +kernel), spacing_words (z := false) (by decide +kernel),
      spacing_words (z := true) (by decide +kernel), spacing_value hplant,
      spacing_words (z := true) (by decide +kernel), spacing_value (spacing_isoDate _),
      spacing_words (z := true) (by decide +kernel), spacing_value (spacing_number _),
      spacing_words (z := true) (by decide +kernel), spacing_value (spacing_isoDate _),
      spacing_words (z := true) (by decide +kernel), spacing_value (spacing_costText _),
      spacing_words (z := true) (by decide +kernel), spacing_value (spacing_number _),
      spacing_words (z := false) (by decide +kernel)]
    rfl
  | willStatement =>
    simp only [Statement.write, Statement.pieces, words, filled, List.flatMap_cons,
      List.flatMap_nil]
    rw [spacing_words (z := true) (by decide +kernel),
      spacing_words (z := true) (by decide +kernel), spacing_value (spacing_commaNumber _),
      spacing_words (z := true) (by decide +kernel),
      spacing_value (spacing_part st), spacing_words (z := true) (by decide +kernel),
      spacing_value hplant, spacing_words (z := true) (by decide +kernel),
      spacing_value (spacing_longDate _), spacing_words (z := true) (by decide +kernel),
      spacing_value (spacing_commaNumber _), spacing_words (z := true) (by decide +kernel),
      spacing_value (spacing_partialDate st), spacing_words (z := false) (by decide +kernel),
      spacing_value (spacing_costText _), spacing_words (z := true) (by decide +kernel),
      spacing_value (spacing_commaNumber _), spacing_words (z := false) (by decide +kernel)]
    rfl

theorem normalized_write (st : Statement) (sentence : Sentence) :
    normalized (st.write sentence) = st.write sentence :=
  ((normalized_of_spacing _).2 (spacing_write st sentence)).1

/-! ### The round trip -/

/-- A text that is the written statement but for its spacing and its case. -/
theorem parse_of_lower {st : Statement} (sentence : Sentence) {text : String}
    (hlength : text.length ≤ 16000)
    (hlower : (normalized text.toList).map Char.toLower =
      (st.write sentence).map Char.toLower) : parseSupplierDisruption text = .ok st.facts := by
  obtain ⟨values, hspells, hread⟩ := spells_write_of_lower st sentence hlower
  refine parseSupplierDisruption_eq_ok.mpr ⟨hlength, values, match?_eq_some.mpr ?_, hread⟩
  cases sentence with
  | statement => exact .inl hspells
  | willStatement => exact .inr hspells

/-- The parser accepts what a supplier can state and nothing else: accepted facts are those of a
statement, every written statement is read as its facts, and so is every text that differs from
it in spacing and case only. -/
theorem parseSupplierDisruption_write :
    (∀ text facts, parseSupplierDisruption text = .ok facts → ∃ st : Statement, st.facts = facts) ∧
      (∀ (st : Statement) (sentence : Sentence), (st.write sentence).length ≤ 16000 →
        parseSupplierDisruption (String.ofList (st.write sentence)) = .ok st.facts) ∧
        ∀ (st : Statement) (sentence : Sentence) (text : String), text.length ≤ 16000 →
          (normalized text.toList).map Char.toLower = (st.write sentence).map Char.toLower →
            parseSupplierDisruption text = .ok st.facts := by
  refine ⟨fun text facts hparse => ?_, fun st sentence hlength => ?_,
    fun st sentence text hlength hlower => parse_of_lower sentence hlength hlower⟩
  · obtain ⟨-, values, hmatch, hread⟩ := parseSupplierDisruption_eq_ok.mp hparse
    exact readFacts_statement (match?_eq_some.mp hmatch) hread
  · refine parse_of_lower sentence ?_ ?_
    · rw [String.length_ofList]
      exact hlength
    · rw [String.toList_ofList, normalized_write]

/-- The statement of the supported mail. -/
def sampleStatement : Statement where
  partNumber := "10247".toList
  due := ⟨2026, 9, 3, by decide, by decide, by decide, by decide, by decide, by decide⟩
  partialDue := ⟨2026, 9, 6, by decide, by decide, by decide, by decide, by decide, by decide⟩
  partialQuantity := 3000
  remaining := 5000
  cents := 750
  partNumber_ne := by decide +kernel
  partNumber_digits := by
    have hall : ("10247".toList.all Char.isDigit) = true := by decide +kernel
    exact List.all_eq_true.mp hall
  partial_pos := by decide
  remaining_pos := by decide
  original_lt := by decide
  due_le := by decide +kernel

theorem parseSupplierDisruption_write_sample :
    parseSupplierDisruption (String.ofList (sampleStatement.write .willStatement)) =
        .ok sampleStatement.facts ∧ sampleStatement.facts.originalQuantity = 8000 := by
  have hlength : (sampleStatement.write .willStatement).length ≤ 16000 := by decide +kernel
  exact ⟨parseSupplierDisruption_write.2.1 sampleStatement .willStatement hlength, rfl⟩

end Inbound

end SupplyResponse
