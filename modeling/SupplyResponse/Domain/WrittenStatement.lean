/-
Statements of a supplier, written and read back.

* `Statement.write` — the two sentences of a statement: plain numbers and dates in figures, or
  numbers with commas and the names of the months;
* `spells_write`, `readFacts_blanks` — what is written is the sentence, and its blanks state the
  facts.
-/
import SupplyResponse.Domain.SupplierStatement

namespace SupplyResponse

namespace Inbound

open Regex Calendar

variable {s : List Char} {values : Captures Blank}

/-! ### Written values -/

def number (n : ℕ) : List Char := Nat.toDigits 10 n

/-- With zeros before the number. -/
def padded (width n : ℕ) : List Char :=
  List.replicate (width - (number n).length) '0' ++ number n

/-- `{n:,}`, below a thousand millions. -/
def commaNumber (n : ℕ) : List Char :=
  if n < 1000 then number n
  else if n < 1000000 then number (n / 1000) ++ ',' :: padded 3 (n % 1000)
  else number (n / 1000000) ++ ',' :: padded 3 (n / 1000 % 1000) ++ ',' :: padded 3 (n % 1000)

def isoDate (d : CalendarDate) : List Char :=
  padded 4 d.year ++ ('-' :: (padded 2 d.month ++ '-' :: padded 2 d.day))

def monthAndDay (d : CalendarDate) : List Char :=
  monthNames.getD (d.month - 1) [] ++ ' ' :: number d.day

def longDate (d : CalendarDate) : List Char := monthAndDay d ++ (',' :: ' ' :: padded 4 d.year)

def costText (cents : ℕ) : List Char := number (cents / 100) ++ '.' :: padded 2 (cents % 100)

theorem number_digits (n : ℕ) : ∀ c ∈ number n, c.isDigit = true :=
  fun _ hc => Nat.isDigit_of_mem_toDigits (by decide) (by decide) hc

theorem number_length {n k : ℕ} (hk : 0 < k) : (number n).length ≤ k ↔ n < 10 ^ k :=
  Nat.length_toDigits_le_iff (by decide) hk

theorem int?_number (n : ℕ) : int? (number n) = some n :=
  int?_eq_some.mpr ⟨Nat.toDigits_ne_nil, number_digits n, Nat.ofDigitChars_ten_toDigits⟩

theorem padded_digits (width n : ℕ) : ∀ c ∈ padded width n, c.isDigit = true := by
  intro c hc
  rcases List.mem_append.mp hc with hc | hc
  · rw [List.eq_of_mem_replicate hc]
    rfl
  · exact number_digits n c hc

theorem padded_length {width n : ℕ} (hwidth : 0 < width) (h : n < 10 ^ width) :
    (padded width n).length = width := by
  have hle := (number_length hwidth).mpr h
  rw [padded, List.length_append, List.length_replicate]
  omega

theorem ofDigitChars_padded (width n : ℕ) : Nat.ofDigitChars 10 (padded width n) 0 = n := by
  rw [padded, Nat.ofDigitChars_append, Nat.ofDigitChars_replicate_zero, Nat.mul_zero]
  exact Nat.ofDigitChars_ten_toDigits

theorem int?_padded (width n : ℕ) : int? (padded width n) = some n := by
  refine int?_eq_some.mpr ⟨fun h => ?_, padded_digits width n, ofDigitChars_padded width n⟩
  exact Nat.toDigits_ne_nil (List.append_eq_nil_iff.mp h).2

/-- A positive number begins with a digit that is not zero. -/
theorem number_head {n : ℕ} (hn : 0 < n) :
    ∃ c rest, number n = c :: rest ∧ c ∈ "123456789".toList := by
  induction n using Nat.strongRecOn with
  | ind n ih =>
    by_cases hlt : n < 10
    · refine ⟨n.digitChar, [], Nat.toDigits_of_lt_base hlt, ?_⟩
      interval_cases n <;> decide
    · -- the first digit is that of all but the last one
      obtain ⟨c, rest, hrest, hc⟩ := ih (n / 10) (by omega) (by omega)
      refine ⟨c, rest ++ [(n % 10).digitChar], ?_, hc⟩
      have hsplit : number n = number (n / 10) ++ [(n % 10).digitChar] :=
        Nat.toDigits_of_base_le (by decide) (by omega)
      rw [hsplit, hrest]
      rfl

/-! ### Reading what is written -/

theorem filter_comma {u : List Char} (h : ∀ c ∈ u, c.isDigit = true) :
    u.filter (· ≠ ',') = u := by
  refine List.filter_eq_self.mpr fun c hc => decide_eq_true fun hcomma => ?_
  have hdigit := h c hc
  rw [hcomma] at hdigit
  exact absurd hdigit (by decide)

theorem quantity?_number (n : ℕ) : quantity? (number n) = some n := by
  rw [quantity?, filter_comma (number_digits n), int?_number]

/-- Another three digits behind a comma. -/
theorem quantity?_comma {u : List Char} {n k : ℕ} (hu : quantity? u = some n) (hk : k < 1000) :
    quantity? (u ++ ',' :: padded 3 k) = some (n * 1000 + k) := by
  obtain ⟨hne, hdigits, rfl⟩ := int?_eq_some.mp hu
  have hlength : (padded 3 k).length = 3 := padded_length (by decide) hk
  have hfilter : (u ++ ',' :: padded 3 k).filter (· ≠ ',') =
      u.filter (· ≠ ',') ++ padded 3 k := by
    rw [List.filter_append, List.filter_cons_of_neg (by decide), filter_comma (padded_digits _ _)]
  rw [quantity?, hfilter]
  refine int?_eq_some.mpr ⟨fun h => hne (List.append_eq_nil_iff.mp h).1, fun c hc => ?_, ?_⟩
  · rcases List.mem_append.mp hc with hc | hc
    · exact hdigits c hc
    · exact padded_digits _ _ c hc
  · rw [Nat.ofDigitChars_append, Nat.ofDigitChars_eq_ofDigitChars_zero, hlength,
      ofDigitChars_padded]
    omega

theorem quantity?_commaNumber (n : ℕ) : quantity? (commaNumber n) = some n := by
  unfold commaNumber
  split_ifs with h₁ h₂
  · exact quantity?_number n
  · rw [quantity?_comma (quantity?_number _) (by omega)]
    exact congrArg some (by omega)
  · rw [quantity?_comma (quantity?_comma (quantity?_number _) (by omega)) (by omega)]
    exact congrArg some (by omega)

theorem takeWhile_digits {u v : List Char} {sign : Char} (hu : ∀ c ∈ u, c.isDigit = true)
    (hsign : sign.isDigit = false) :
    (u ++ sign :: v).takeWhile (· ≠ sign) = u ∧
      (u ++ sign :: v).dropWhile (· ≠ sign) = sign :: v := by
  have hne : ∀ c ∈ u, decide (c ≠ sign) = true := by
    intro c hc
    refine decide_eq_true fun hcs => ?_
    have hdigit := hu c hc
    rw [hcs, hsign] at hdigit
    cases hdigit
  rw [List.takeWhile_append_of_pos hne, List.dropWhile_append_of_pos hne]
  simp

theorem decimal?_costText (cents : ℕ) : decimal? (costText cents) = some ((cents : ℚ) / 100) := by
  obtain ⟨htake, hdrop⟩ := takeWhile_digits (v := padded 2 (cents % 100))
    (number_digits (cents / 100)) (show Char.isDigit '.' = false from rfl)
  have hlength : (padded 2 (cents % 100)).length = 2 := padded_length (by decide) (by omega)
  have hsplit : (cents : ℚ) = ((cents / 100 : ℕ) : ℚ) * 100 + ((cents % 100 : ℕ) : ℚ) := by
    exact_mod_cast (Nat.div_add_mod' cents 100).symm
  unfold decimal? costText
  simp only [htake, hdrop, int?_number, List.drop_succ_cons, List.drop_zero, int?_padded, hlength,
    Option.bind_eq_bind, Option.bind_some]
  refine congrArg some ?_
  rw [hsplit]
  ring

/-! ### Dates -/

theorem year_length (d : CalendarDate) : (padded 4 d.year).length = 4 :=
  padded_length (by decide) (by have := d.year_le; omega)

theorem month_length (d : CalendarDate) : (padded 2 d.month).length = 2 :=
  padded_length (by decide) (by have := d.month_le; omega)

theorem day_le_31 (d : CalendarDate) : d.day ≤ 31 := by
  have hday := d.day_le
  unfold daysInMonth at hday
  split_ifs at hday <;> omega

theorem day_length (d : CalendarDate) : (padded 2 d.day).length = 2 :=
  padded_length (by decide) (by have := day_le_31 d; omega)

/-- A text of digits and more starts with a digit. -/
theorem startsWithDigit_append {u v : List Char} (hu : ∀ c ∈ u, c.isDigit = true) (hne : u ≠ []) :
    startsWithDigit (u ++ v) = true := by
  cases u with
  | nil => exact absurd rfl hne
  | cons c u => exact hu c List.mem_cons_self

theorem startsWithDigit_isoDate (d : CalendarDate) : startsWithDigit (isoDate d) = true := by
  refine startsWithDigit_append (padded_digits 4 d.year) fun h => ?_
  have hlength := year_length d
  rw [h] at hlength
  cases hlength

theorem date_isoDate (d : CalendarDate) : date (isoDate d) = some d := by
  have hyear := year_length d
  have hmonth := month_length d
  have hday := day_length d
  rw [date, if_pos (startsWithDigit_isoDate d)]
  have hlength : (isoDate d).length = 10 := by
    simp only [isoDate, List.length_append, List.length_cons, hyear, hmonth, hday]
  -- the two signs stand behind the year and behind the month
  have hfirst : (isoDate d)[4]? = some '-' := by
    rw [isoDate, List.getElem?_append_right (by omega), hyear]
    rfl
  have hsecond : (isoDate d)[7]? = some '-' := by
    rw [isoDate, List.getElem?_append_right (by omega), hyear, List.getElem?_cons_succ,
      List.getElem?_append_right (by omega), hmonth]
    rfl
  have htake : (isoDate d).take 4 = padded 4 d.year := List.take_left' hyear
  have hrest : (isoDate d).drop 5 = padded 2 d.month ++ '-' :: padded 2 d.day := by
    rw [isoDate, show 5 = 4 + 1 from rfl, ← List.drop_drop, List.drop_left' hyear]
    rfl
  have hlast : (isoDate d).drop 8 = padded 2 d.day := by
    rw [show 8 = 5 + 3 from rfl, ← List.drop_drop, hrest, show 3 = 2 + 1 from rfl,
      ← List.drop_drop, List.drop_left' hmonth]
    rfl
  rw [fromIsoFormat, if_pos ⟨hlength, hfirst, hsecond⟩, htake, hrest, hlast,
    List.take_left' hmonth, int?_padded, int?_padded, int?_padded]
  exact date?_self d

/-- The names of the months are of small letters, and each is the name of one month. -/
theorem monthName_spec (d : CalendarDate) :
    (monthNames.getD (d.month - 1) []).map Char.toLower = monthNames.getD (d.month - 1) [] ∧
      monthNames.contains (monthNames.getD (d.month - 1) []) = true ∧
        monthNames.idxOf (monthNames.getD (d.month - 1) []) + 1 = d.month ∧
          ((monthNames.getD (d.month - 1) []).all fun c => c ∈ letters) = true ∧
            monthNames.getD (d.month - 1) [] ≠ [] := by
  have hpos := d.month_pos
  have hle := d.month_le
  generalize d.month = m at hpos hle
  interval_cases m <;> decide +kernel

theorem letter_ne {c : Char} (h : c ∈ letters) {sign : Char} (hsign : sign ∉ letters) :
    c ≠ sign := by
  rintro rfl
  exact hsign h

theorem mem_monthName {d : CalendarDate} {c : Char}
    (hc : c ∈ monthNames.getD (d.month - 1) []) : c ∈ letters :=
  of_all (monthName_spec d).2.2.2.1 hc

/-- The month is what stands before the first space. -/
theorem monthAndDay_split (d : CalendarDate) (v : List Char) :
    (monthAndDay d ++ v).takeWhile (· ≠ ' ') = monthNames.getD (d.month - 1) [] ∧
      (monthAndDay d ++ v).dropWhile (· ≠ ' ') = ' ' :: (number d.day ++ v) := by
  have hne : ∀ c ∈ monthNames.getD (d.month - 1) [], decide (c ≠ ' ') = true :=
    fun c hc => decide_eq_true (letter_ne (mem_monthName hc) (by decide))
  rw [monthAndDay, List.append_assoc, List.takeWhile_append_of_pos hne,
    List.dropWhile_append_of_pos hne]
  simp

theorem startsWithDigit_monthAndDay (d : CalendarDate) (v : List Char) :
    startsWithDigit (monthAndDay d ++ v) = false := by
  have hne := (monthName_spec d).2.2.2.2
  rw [monthAndDay]
  cases hname : monthNames.getD (d.month - 1) [] with
  | nil => exact absurd hname hne
  | cons c rest =>
    have hc : c ∈ letters := mem_monthName (d := d) (by rw [hname]; exact List.mem_cons_self)
    have hdigit : c.isDigit ≠ true := fun h =>
      disjoint_spec digits_disjoint (mem_digits.mpr h) hc
    exact Bool.eq_false_iff.mpr hdigit

theorem date_longDate (d : CalendarDate) : date (longDate d) = some d := by
  obtain ⟨hlower, hmem, hindex, -, -⟩ := monthName_spec d
  obtain ⟨htake, hdrop⟩ := monthAndDay_split d (',' :: ' ' :: padded 4 d.year)
  obtain ⟨hday, hending⟩ := takeWhile_digits (v := ' ' :: padded 4 d.year) (number_digits d.day)
    (show Char.isDigit ',' = false from rfl)
  have hshort : (number d.day).length ≤ 2 :=
    (number_length (by decide)).mpr (by have := day_le_31 d; omega)
  have hyear := year_length d
  have hstart : startsWithDigit (longDate d) = false := startsWithDigit_monthAndDay d _
  rw [date, hstart, if_neg (by decide)]
  unfold strptime longDate
  simp only [htake, hdrop, List.drop_succ_cons, List.drop_zero, hday, hending, int?_number,
    int?_padded, Option.bind_eq_bind, Option.bind_some, hlower]
  rw [if_pos ⟨hmem, hshort, rfl, hyear⟩, hindex]
  exact date?_self d

/-! ### Spelling what is written -/

theorem foldCase_of_isDigit {c : Char} (h : c.isDigit = true) : foldCase c ∈ digits := by
  have hall : (digits.all fun d => foldCase d ∈ digits) = true := by decide +kernel
  exact of_all hall (mem_digits.mpr h)

theorem foldCase_of_mem_letters {c : Char} (h : c ∈ letters) : foldCase c ∈ letters := by
  have hall : (letters.all fun d => foldCase d ∈ letters) = true := by decide +kernel
  exact of_all hall h

theorem spells_digits {u : List Char} {least : ℕ} {most : Option ℕ}
    (hu : ∀ c ∈ u, c.isDigit = true) (hleast : least ≤ u.length)
    (hmost : ∀ n ∈ most, u.length ≤ n) :
    Spells foldCase (.run digits least most) u ([] : Captures Blank) :=
  .run (fun c hc => foldCase_of_isDigit (hu c hc)) hleast hmost

theorem spells_padded {width n : ℕ} (hwidth : 0 < width) (h : n < 10 ^ width) :
    Spells foldCase (.run digits width (some width)) (padded width n) ([] : Captures Blank) := by
  have hlength := padded_length hwidth h
  refine spells_digits (padded_digits width n) hlength.ge fun m hm => ?_
  rw [← Option.some.inj hm]
  exact hlength.le

/-- A positive number, as its first digit and the rest. -/
theorem number_split {n k : ℕ} (hn : 0 < n) (h : n < 10 ^ (k + 1)) :
    ∃ c rest, number n = [c] ++ rest ∧
      Spells foldCase (.run "123456789".toList 1 (some 1)) [c] ([] : Captures Blank) ∧
        Spells foldCase (.run digits 0 (some k)) rest ([] : Captures Blank) := by
  obtain ⟨c, rest, hnumber, hc⟩ := number_head hn
  have hlength := (number_length (Nat.succ_pos k)).mpr h
  have hdigits := number_digits n
  rw [hnumber] at hlength hdigits
  refine ⟨c, rest, hnumber, .run (fun d hd => ?_) le_rfl fun m hm => ?_,
    spells_digits (fun d hd => hdigits d (List.mem_cons_of_mem c hd)) (Nat.zero_le _)
      fun m hm => ?_⟩
  · have hall : ("123456789".toList.all fun d => foldCase d ∈ "123456789".toList) = true := by
      decide +kernel
    rw [List.mem_singleton.mp hd]
    exact of_all hall hc
  · rw [← Option.some.inj hm]
    rfl
  · rw [← Option.some.inj hm]
    exact Nat.le_of_succ_le_succ hlength

theorem spells_number {n : ℕ} (hn : 0 < n) (h : n < 10 ^ 9) :
    Spells foldCase quantity (number n) [] := by
  obtain ⟨c, rest, hnumber, hfirst, hrest⟩ := number_split hn h
  rw [hnumber]
  exact .left (.seq hfirst hrest)

theorem spells_thousandsGroup {n : ℕ} (h : n < 1000) :
    Spells foldCase thousandsGroup (',' :: padded 3 n) [] :=
  .seq (.text rfl : Spells foldCase (text ",") [','] []) (spells_padded (by decide) h)

/-- A number of up to three digits with one or two groups behind it. -/
theorem spells_groups {n : ℕ} {u v : List Char} (hn : 0 < n) (hlt : n < 1000)
    (hu : Spells foldCase thousandsGroup u [])
    (hv : Spells foldCase (.alt thousandsGroup (text "")) v []) :
    Spells foldCase quantity (number n ++ (u ++ v)) [] := by
  obtain ⟨c, rest, hnumber, hfirst, hrest⟩ := number_split (k := 2) hn hlt
  have h := Spells.seq hfirst (.seq hrest (.seq hu (.seq hv (.text rfl : Spells foldCase _ [] []))))
  rw [List.append_nil] at h
  rw [hnumber, List.append_assoc]
  exact .right h

theorem spells_commaNumber {n : ℕ} (hn : 0 < n) (h : n < 10 ^ 9) :
    Spells foldCase quantity (commaNumber n) [] := by
  unfold commaNumber
  split_ifs with h₁ h₂
  · exact spells_number hn h
  · have hempty : Spells foldCase (.alt thousandsGroup (text "")) [] [] := .right (.text rfl)
    have hgroups := spells_groups (n := n / 1000) (by omega) (by omega)
      (spells_thousandsGroup (n := n % 1000) (by omega)) hempty
    rw [List.append_nil] at hgroups
    exact hgroups
  · have hgroups := spells_groups (n := n / 1000000) (by omega) (by omega)
      (spells_thousandsGroup (n := n / 1000 % 1000) (by omega))
      (.left (spells_thousandsGroup (n := n % 1000) (by omega)))
    rw [← List.append_assoc] at hgroups
    exact hgroups

theorem spells_costText (cents : ℕ) : Spells foldCase costPattern (costText cents) [] := by
  have hwhole : Spells foldCase (.run digits 1 none) (number (cents / 100)) ([] : Captures Blank) :=
    spells_digits (number_digits _) Nat.length_toDigits_pos nofun
  have hrest : Spells foldCase (.run digits 2 (some 2)) (padded 2 (cents % 100))
      ([] : Captures Blank) := spells_padded (by decide) (by omega)
  have h := Spells.seq hwhole (.seq (.text rfl : Spells foldCase (text ".") ['.'] [])
    (.seq hrest (.text rfl : Spells foldCase _ [] [])))
  rw [List.append_nil] at h
  exact h

theorem spells_isoDate (d : CalendarDate) : Spells foldCase datePattern (isoDate d) [] := by
  have hdash : Spells foldCase (text "-") ['-'] [] := .text rfl
  have hyear : Spells foldCase (.run digits 4 (some 4)) (padded 4 d.year) ([] : Captures Blank) :=
    spells_padded (by decide) (by have := d.year_le; omega)
  have hmonth : Spells foldCase (.run digits 2 (some 2)) (padded 2 d.month) ([] : Captures Blank) :=
    spells_padded (by decide) (by have := d.month_le; omega)
  have hday : Spells foldCase (.run digits 2 (some 2)) (padded 2 d.day) ([] : Captures Blank) :=
    spells_padded (by decide) (by have := day_le_31 d; omega)
  have h := Spells.seq hyear (.seq hdash (.seq hmonth (.seq hdash (.seq hday
    (.text rfl : Spells foldCase _ [] [])))))
  rw [List.append_nil] at h
  exact .right h

theorem spells_monthAndDay (d : CalendarDate) : Spells foldCase monthDay (monthAndDay d) [] := by
  have hmonth : Spells foldCase (.run letters 1 none) (monthNames.getD (d.month - 1) [])
      ([] : Captures Blank) :=
    .run (fun c hc => foldCase_of_mem_letters (mem_monthName hc))
      (List.length_pos_iff.mpr (monthName_spec d).2.2.2.2) nofun
  have hday : Spells foldCase (.run digits 1 (some 2)) (number d.day) ([] : Captures Blank) := by
    refine spells_digits (number_digits _) Nat.length_toDigits_pos fun m hm => ?_
    rw [← Option.some.inj hm]
    exact (number_length (by decide)).mpr (by have := day_le_31 d; omega)
  have h := Spells.seq hmonth (.seq (.text rfl : Spells foldCase (text " ") [' '] [])
    (.seq hday (.text rfl : Spells foldCase _ [] [])))
  rw [List.append_nil] at h
  exact h

theorem spells_commaYear (d : CalendarDate) :
    Spells foldCase commaYear (',' :: ' ' :: padded 4 d.year) [] :=
  .seq (.text rfl : Spells foldCase (text ", ") [',', ' '] [])
    (spells_padded (by decide) (by have := d.year_le; omega))

theorem spells_longDate (d : CalendarDate) : Spells foldCase datePattern (longDate d) [] :=
  .left (.seq (spells_monthAndDay d) (spells_commaYear d))

/-! ### Written statements -/

/-- The sentences that a supplier uses. -/
inductive Sentence
  | statement
  | willStatement

def Sentence.pattern : Sentence → Pattern Blank
  | .statement => Inbound.statement
  | .willStatement => Inbound.willStatement

/-- Words of a sentence, with no blank. -/
def words (w : String) : List Char × Captures Blank := (w.toList, [])

/-- A blank that is filled. -/
def filled (key : Blank) (value : List Char) : List Char × Captures Blank := (value, [(key, value)])

namespace Statement

variable (st : Statement)

def original : ℕ := st.partialQuantity + st.remaining

def part : List Char := "RL-MAT-".toList ++ st.partNumber

/-- The date of the partial delivery, without the year where it is that of the original one. -/
def partialDate : List Char :=
  if st.partialDue.year = st.due.year ∧ 1000 ≤ st.due.year then monthAndDay st.partialDue
  else longDate st.partialDue

/-- The pieces of a sentence: one has plain numbers and dates in figures, the other has commas in
the numbers and names the months. -/
def pieces : Sentence → List (List Char × Captures Blank)
  | .statement =>
    [words "Supplier Alpha cannot deliver ", filled .original (number st.original),
      words " units of ", filled .part st.part, words " ", words "to", words " ",
      filled .plant "Chicago".toList, words " on ", filled .due (isoDate st.due),
      words ". We can offer a partial shipment of ",
      filled .partialQuantity (number st.partialQuantity), words " units by air arriving ",
      filled .partialDue (isoDate st.partialDue), words ", at an additional USD ",
      filled .cost (costText st.cents), words " per unit. The remaining ",
      filled .remaining (number st.remaining),
      words " units have no confirmed delivery date."]
  | .willStatement =>
    [words "FYI ", words "Supplier Alpha cannot deliver the ",
      filled .original (commaNumber st.original), words " units of component ",
      filled .part st.part, words " originally due at the ", filled .plant "Chicago".toList,
      words " plant on ", filled .due (longDate st.due),
      words ". We can offer a partial shipment of ",
      filled .partialQuantity (commaNumber st.partialQuantity), words " units by air on ",
      filled .partialDue st.partialDate, words " at an additional cost of $",
      filled .cost (costText st.cents),
      words " per unit. We do not have a confirmed delivery date for the remaining ",
      filled .remaining (commaNumber st.remaining), words " units."]

/-- The sentence of a statement. -/
def write (sentence : Sentence) : List Char := (st.pieces sentence).flatMap Prod.fst

def blanks (sentence : Sentence) : Captures Blank := (st.pieces sentence).flatMap Prod.snd

end Statement

theorem spells_words (w : String) : Spells foldCase (text w) (words w).1 (words w).2 := .text rfl

theorem spells_filled {key : Blank} {b : Pattern Blank} {value : List Char}
    (h : Spells foldCase b value []) :
    Spells foldCase (.group key b) (filled key value).1 (filled key value).2 := .group h

theorem spells_part (st : Statement) : Spells foldCase partPattern st.part [] :=
  .seq (.text rfl : Spells foldCase (text "RL-MAT-") "RL-MAT-".toList [])
    (spells_digits st.partNumber_digits (List.length_pos_iff.mpr st.partNumber_ne) nofun)

theorem spells_partialDate (st : Statement) :
    Spells foldCase (.seq monthDay (.alt commaYear (text ""))) st.partialDate [] := by
  unfold Statement.partialDate
  split_ifs
  · have h := Spells.seq (spells_monthAndDay st.partialDue)
      (.right (.text rfl : Spells foldCase (text "") [] []) : Spells foldCase (.alt commaYear _) _ _)
    rw [List.append_nil] at h
    exact h
  · exact .seq (spells_monthAndDay st.partialDue) (.left (spells_commaYear st.partialDue))

/-- What is written is the sentence, and the blanks hold what they are filled with. -/
theorem spells_write (st : Statement) (sentence : Sentence) :
    Spells foldCase sentence.pattern (st.write sentence) (st.blanks sentence) := by
  have hplant : Spells foldCase (text "Chicago") "Chicago".toList [] := .text rfl
  have horiginal : 0 < st.original := Nat.add_pos_left st.partial_pos _
  have hoffered : st.partialQuantity < 10 ^ 9 := by have := st.original_lt; omega
  have hremaining : st.remaining < 10 ^ 9 := by have := st.original_lt; omega
  cases sentence with
  | statement =>
    refine spells_seqs ?_
    refine .cons (spells_words _) (.cons (spells_filled (spells_number horiginal st.original_lt)) ?_)
    refine .cons (spells_words _) (.cons (spells_filled (spells_part st)) ?_)
    refine .cons (spells_words _) (.cons (.left (spells_words "to")) ?_)
    refine .cons (spells_words _) (.cons (spells_filled hplant) ?_)
    refine .cons (spells_words _) (.cons (spells_filled (spells_isoDate st.due)) ?_)
    refine .cons (spells_words _)
      (.cons (spells_filled (spells_number st.partial_pos hoffered)) ?_)
    refine .cons (spells_words _) (.cons (spells_filled (spells_isoDate st.partialDue)) ?_)
    refine .cons (spells_words _) (.cons (spells_filled (spells_costText st.cents)) ?_)
    refine .cons (spells_words _)
      (.cons (spells_filled (spells_number st.remaining_pos hremaining)) ?_)
    exact .cons (spells_words _) .nil
  | willStatement =>
    refine spells_seqs ?_
    refine .cons (.left (spells_words "FYI ")) (.cons (spells_words _) ?_)
    refine .cons (spells_filled (spells_commaNumber horiginal st.original_lt)) ?_
    refine .cons (spells_words _) (.cons (spells_filled (spells_part st)) ?_)
    refine .cons (spells_words _) (.cons (spells_filled hplant) ?_)
    refine .cons (spells_words _) (.cons (spells_filled (spells_longDate st.due)) ?_)
    refine .cons (spells_words _)
      (.cons (spells_filled (spells_commaNumber st.partial_pos hoffered)) ?_)
    refine .cons (spells_words _) (.cons (spells_filled (spells_partialDate st)) ?_)
    refine .cons (spells_words _) (.cons (spells_filled (spells_costText st.cents)) ?_)
    refine .cons (spells_words _)
      (.cons (spells_filled (spells_commaNumber st.remaining_pos hremaining)) ?_)
    exact .cons (spells_words _) .nil

theorem withYear_isoDate (d due : CalendarDate) : withYear (isoDate d) due = isoDate d := by
  rw [withYear, if_neg fun h => absurd ((startsWithDigit_isoDate d).symm.trans h.1) (by decide)]

/-- The date of the partial delivery is read with the year of the original one where it has
none. -/
theorem date_partialDate (st : Statement) :
    date (withYear st.partialDate st.due) = some st.partialDue := by
  unfold Statement.partialDate
  split_ifs with h
  · obtain ⟨hyear, hlarge⟩ := h
    have hstart : startsWithDigit (monthAndDay st.partialDue) = false := by
      have hstart := startsWithDigit_monthAndDay st.partialDue []
      rwa [List.append_nil] at hstart
    have hcomma : ',' ∉ monthAndDay st.partialDue := by
      intro hmem
      rcases List.mem_append.mp hmem with hmem | hmem
      · exact absurd (mem_monthName hmem) (by decide)
      · rcases List.mem_cons.mp hmem with hspace | hmem
        · exact absurd hspace (by decide)
        · exact absurd (number_digits _ _ hmem) (by decide)
    -- from 1000 on a year has its four digits without zeros
    have hpadded : (toString st.due.year).toList = padded 4 st.partialDue.year := by
      have hlength : 4 ≤ (number st.due.year).length := by
        have hnot := (number_length (n := st.due.year) (k := 3) (by decide)).not.mpr (by omega)
        omega
      rw [hyear, padded, Nat.sub_eq_zero_of_le hlength]
      exact Nat.toList_repr
    rw [withYear, if_pos ⟨hstart, hcomma⟩, hpadded, List.append_assoc]
    exact date_longDate st.partialDue
  · have hcomma : ',' ∈ longDate st.partialDue :=
      List.mem_append_right _ List.mem_cons_self
    rw [withYear, if_neg fun hnot => hnot.2 hcomma]
    exact date_longDate st.partialDue

theorem part_toUpper (st : Statement) : st.part.map Char.toUpper = st.part := by
  have hbeginning : "RL-MAT-".toList.map Char.toUpper = "RL-MAT-".toList := by decide +kernel
  unfold Statement.part
  rw [List.map_append, hbeginning, toUpper_digits st.partNumber_digits]

/-- The facts are read off the blanks. -/
theorem readFacts_of_values {st : Statement}
    (horiginal : quantity? (valueOf values .original) = some st.original)
    (hoffered : quantity? (valueOf values .partialQuantity) = some st.partialQuantity)
    (hremaining : quantity? (valueOf values .remaining) = some st.remaining)
    (hdue : date (valueOf values .due) = some st.due)
    (hpartialDue : date (withYear (valueOf values .partialDue) st.due) = some st.partialDue)
    (hcost : valueOf values .cost = costText st.cents) (hpart : valueOf values .part = st.part) :
    readFacts values = some st.facts := by
  have hnonneg : (0 : ℚ) ≤ (st.cents : ℚ) / 100 := by positivity
  unfold readFacts
  simp only [horiginal, hoffered, hremaining, hdue, hpartialDue, hcost, hpart,
    decimal?_costText, Option.bind_eq_bind, Option.bind_some, part_toUpper]
  rw [if_pos ⟨Nat.add_pos_left st.partial_pos _, st.partial_pos, hnonneg, st.remaining_pos, rfl,
    not_lt.mpr st.due_le⟩]
  rfl

theorem readFacts_blanks (st : Statement) (sentence : Sentence) :
    readFacts (st.blanks sentence) = some st.facts := by
  cases sentence with
  | statement =>
    have hpartialDue : date (withYear (isoDate st.partialDue) st.due) = some st.partialDue := by
      rw [withYear_isoDate, date_isoDate]
    exact readFacts_of_values (quantity?_number _) (quantity?_number _) (quantity?_number _)
      (date_isoDate _) hpartialDue rfl rfl
  | willStatement =>
    exact readFacts_of_values (quantity?_commaNumber _) (quantity?_commaNumber _)
      (quantity?_commaNumber _) (date_longDate _) (date_partialDate st) rfl rfl

end Inbound

end SupplyResponse
