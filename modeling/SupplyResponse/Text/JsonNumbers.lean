/-
The number literals of a JSON text.

* `literals` — the literals outside of strings, read from left to right without
  regard to brackets, commas and words;
* `Fits` — a literal of an integer, or of a float that does not overflow;
* `Writes` — the literals of what was read off a text fit iff it has a property;
* `loads_finite_iff` — a value is finite iff all literals of its text fit.
-/
import SupplyResponse.Text.JsonScan

namespace Text

/-! ### The literals of a text -/

/-- Where a character stands: `n` characters before the end of a literal, or
outside of all literals, where `n` is zero; or in a string. -/
inductive Cursor
  | outside (n : ℕ)
  | quoted
  | escaped

/-- The literals behind a cursor. -/
def literals : Cursor → List Char → List NumberLiteral
  | _, [] => []
  | .outside (n + 1), _ :: rest => literals (.outside n) rest
  | .quoted, c :: rest =>
    if c = '\\' then literals .escaped rest
    else if c = '"' then literals (.outside 0) rest
    else literals .quoted rest
  | .escaped, _ :: rest => literals .quoted rest
  | .outside 0, c :: rest =>
    if c = '"' then literals .quoted rest
    else
      match readNumber (c :: rest) with
      | some number => number.1 :: literals (.outside (rest.length - number.2.length)) rest
      | none => literals (.outside 0) rest

/-- The literals of a text. -/
def numberLiterals (text : List Char) : List NumberLiteral := literals (.outside 0) text

/-- The literal is of an integer, or of a float within the doubles. -/
def NumberLiteral.Fits (literal : NumberLiteral) : Prop :=
  literal.isInt = true ∨ ¬Overflows literal.exact

instance (literal : NumberLiteral) : Decidable literal.Fits := inferInstanceAs (Decidable (_ ∨ _))

example : (numberLiterals "[\"1e9\", -0.5]".toList).map (fun l => (l.negative, l.digits)) =
    [(true, ['0'])] := by
  decide +kernel

/-- No literal is read as an infinity. -/
def FiniteValue (value : PyValue) : Prop :=
  ∀ negative, ¬PyValue.Within (.float (.infinite negative)) value

variable {cs rest rest' : List Char} {P Q : Prop}

theorem literals_outside_length (consumed rest : List Char) :
    literals (.outside consumed.length) (consumed ++ rest) = literals (.outside 0) rest := by
  induction consumed with
  | nil => rfl
  | cons c consumed ih => exact ih

/-- A character that begins no literal and no string. -/
theorem literals_cons {c : Char} (hquote : c ≠ '"') (hnumber : readNumber (c :: rest) = none) :
    literals (.outside 0) (c :: rest) = literals (.outside 0) rest := by
  rw [literals, if_neg hquote, hnumber]

theorem readDigits_eq_none {c : Char} (hdigit : isDigit c = false) :
    readDigits (c :: rest) = none := by
  have hzero : c ≠ '0' := by
    rintro rfl
    exact absurd hdigit (by decide)
  show (if c = '0' then _ else if isDigit c then _ else none) = none
  rw [if_neg hzero, hdigit]
  rfl

theorem readNumber_eq_none {c : Char} (hminus : c ≠ '-') (hdigit : isDigit c = false) :
    readNumber (c :: rest) = none := by
  have hsign : readMinus (c :: rest) = (false, c :: rest) := by
    unfold readMinus
    split
    · rename_i heq
      exact absurd (List.cons.inj heq).1 hminus
    · rfl
  unfold readNumber
  simp only [hsign, readDigits_eq_none hdigit, Option.map_none]

/-! ### What was read off a text -/

/-- The literals up to `rest` fit iff `P`. -/
def Writes (cs rest : List Char) (P : Prop) : Prop :=
  ∃ read, literals (.outside 0) cs = read ++ literals (.outside 0) rest ∧
    (P ↔ ∀ literal ∈ read, literal.Fits)

theorem Writes.of_eq (h : literals (.outside 0) cs = literals (.outside 0) rest) :
    Writes cs rest True :=
  ⟨[], h, by simp⟩

theorem Writes.trans (h : Writes cs rest P) (h' : Writes rest rest' Q) :
    Writes cs rest' (P ∧ Q) := by
  obtain ⟨read, hread, hP⟩ := h
  obtain ⟨read', hread', hQ⟩ := h'
  refine ⟨read ++ read', by rw [hread, hread', List.append_assoc], ?_⟩
  rw [hP, hQ, List.forall_mem_append]

theorem Writes.after (h : Writes cs rest True) (h' : Writes rest rest' P) : Writes cs rest' P := by
  have htrans := h.trans h'
  rwa [true_and] at htrans

theorem Writes.before (h : Writes cs rest P) (h' : Writes rest rest' True) : Writes cs rest' P := by
  have htrans := h.trans h'
  rwa [and_true] at htrans

/-- A character between the literals. -/
theorem Writes.cons {c : Char} (hquote : c ≠ '"') (hminus : c ≠ '-')
    (hdigit : isDigit c = false) : Writes (c :: rest) rest True :=
  .of_eq (literals_cons hquote (readNumber_eq_none hminus hdigit))

theorem Writes.takeWhile {p : Char → Bool}
    (h : ∀ c, p c = true → c ≠ '"' ∧ c ≠ '-' ∧ isDigit c = false) (cs : List Char) :
    Writes cs (cs.dropWhile p) True := by
  induction cs with
  | nil => exact .of_eq rfl
  | cons c cs ih =>
    rw [List.dropWhile_cons]
    split
    · rename_i hc
      obtain ⟨hquote, hminus, hdigit⟩ := h c hc
      exact (Writes.cons hquote hminus hdigit).after ih
    · exact .of_eq rfl

theorem skipSpace_writes (cs : List Char) : Writes cs (skipSpace cs) True := by
  refine .takeWhile (fun c hc => ?_) cs
  unfold isJsonSpace at hc
  rw [decide_eq_true_eq] at hc
  simp only [List.mem_cons, List.not_mem_nil, or_false] at hc
  rcases hc with rfl | rfl | rfl | rfl <;> decide

/-! ### Strings -/

/-- The cursor inside a string, or behind it. -/
def cursorAfter (ended : Bool) : Cursor := if ended then .outside 0 else .quoted

theorem literals_inner {consumed : List Char} (h : ∀ c ∈ consumed, IsInner c) :
    literals .quoted (consumed ++ rest) = literals .quoted rest := by
  induction consumed with
  | nil => rfl
  | cons c consumed ih =>
    have hc := h c (List.mem_cons_self ..)
    rw [List.cons_append, literals, if_neg hc.backslash, if_neg hc.quote]
    exact ih fun d hd => h d (List.mem_cons_of_mem _ hd)

theorem literals_hexQuad {quad : ℕ × List Char} (h : hexQuad cs = some quad) :
    literals .quoted cs = literals .quoted quad.2 := by
  unfold hexQuad at h
  split at h
  · rename_i a b c d rest
    simp only [Option.bind_eq_bind, Option.bind_eq_some_iff, Option.pure_def,
      Option.some.injEq] at h
    obtain ⟨_, ha, _, hb, _, hc, _, hd, rfl⟩ := h
    refine @literals_inner rest [a, b, c, d] fun x hx => ?_
    simp only [List.mem_cons, List.not_mem_nil, or_false] at hx
    rcases hx with rfl | rfl | rfl | rfl
    · exact isInner_of_hexValue? ha
    · exact isInner_of_hexValue? hb
    · exact isInner_of_hexValue? hc
    · exact isInner_of_hexValue? hd
  · cases h

theorem literals_joinPair {high : ℕ} {code : ℕ × List Char} (h : joinPair high cs = some code) :
    literals .quoted cs = literals .quoted code.2 := by
  unfold joinPair at h
  split at h
  · split at h
    · rename_i rest'
      obtain ⟨low, hlow, rfl⟩ := Option.map_eq_some_iff.mp h
      have hskip : literals .quoted ('\\' :: 'u' :: rest') = literals .quoted rest' := rfl
      have hread := literals_hexQuad hlow
      split
      · exact hskip.trans hread
      · rfl
    · rw [← Option.some.inj h]
  · rw [← Option.some.inj h]

theorem literals_readStringChar {read : Option ℕ × List Char}
    (h : readStringChar cs = some read) :
    literals .quoted cs = literals (cursorAfter read.1.isNone) read.2 := by
  unfold readStringChar at h
  split at h
  · cases h
  · rename_i c rest
    split at h
    · rename_i hquote
      subst hquote
      obtain rfl := Option.some.inj h
      rfl
    · split at h
      · rename_i hquote hbackslash
        subst hbackslash
        obtain ⟨code, hcode, rfl⟩ := Option.map_eq_some_iff.mp h
        show literals .escaped rest = literals .quoted code.2
        unfold readEscapeCode at hcode
        split at hcode
        · cases hcode
        · split at hcode
          · obtain ⟨quad, hquad, hjoin⟩ := Option.bind_eq_some_iff.mp hcode
            exact (literals_hexQuad hquad).trans (literals_joinPair hjoin)
          · obtain ⟨char, -, rfl⟩ := Option.map_eq_some_iff.mp hcode
            rfl
      · split at h
        · cases h
        · rename_i hquote hbackslash hvisible
          obtain rfl := Option.some.inj h
          exact @literals_inner rest [c] fun x hx =>
            List.mem_singleton.mp hx ▸ ⟨by omega, hquote, hbackslash⟩

theorem literals_readStringChars {fuel : ℕ} {string : Codes × List Char}
    (h : readStringChars fuel cs = some string) :
    literals .quoted cs = literals (.outside 0) string.2 := by
  induction fuel generalizing cs string with
  | zero => cases h
  | succ fuel ih =>
    unfold readStringChars at h
    split at h
    · cases h
    · rename_i rest hread
      obtain rfl := Option.some.inj h
      exact literals_readStringChar hread
    · rename_i code rest hread
      obtain ⟨string, hstring, rfl⟩ := Option.map_eq_some_iff.mp h
      have hrest := ih hstring
      exact (literals_readStringChar hread).trans hrest

/-- A string holds no literals. -/
theorem readString_writes {string : Codes × List Char} (h : readString cs = some string) :
    Writes ('"' :: cs) string.2 True :=
  .of_eq (literals_readStringChars h)

/-! ### Numbers and words -/

theorem readDigits_length_lt {digits : List Char × List Char} (h : readDigits cs = some digits) :
    digits.2.length < cs.length := by
  unfold readDigits at h
  split at h
  · cases h
  · rename_i c rest
    have hdrop := (List.dropWhile_suffix isDigit (l := rest)).length_le
    split at h
    · obtain rfl := Option.some.inj h
      exact Nat.lt_succ_self _
    · split at h
      · obtain rfl := Option.some.inj h
        exact Nat.lt_succ_of_le hdrop
      · cases h

theorem readNumber_length_lt {number : NumberLiteral × List Char}
    (h : readNumber cs = some number) : number.2.length < cs.length := by
  obtain ⟨digits, hdigits, rfl⟩ := Option.map_eq_some_iff.mp h
  have hminus := (readMinus_spans cs).length_le
  have hlt := readDigits_length_lt hdigits
  have hfraction := (readFraction_spans digits.2).length_le
  have hexponent := (readExponent_spans (readFraction digits.2).2).length_le
  show (readExponent (readFraction digits.2).2).2.length < _
  omega

/-- A number is one literal. -/
theorem readNumber_writes {number : NumberLiteral × List Char} (h : readNumber cs = some number) :
    Writes cs number.2 number.1.Fits := by
  have hlt := readNumber_length_lt h
  obtain ⟨consumed, rfl, -⟩ := readNumber_spans h
  cases consumed with
  | nil => exact absurd hlt (Nat.lt_irrefl _)
  | cons c consumed =>
    rw [List.cons_append] at h ⊢
    have hquote : c ≠ '"' := by
      rintro rfl
      rw [readNumber_eq_none (by decide) (by decide)] at h
      cases h
    have hlength : (consumed ++ number.2).length - number.2.length = consumed.length := by
      rw [List.length_append, Nat.add_sub_cancel]
    refine ⟨[number.1], ?_, by simp⟩
    rw [literals, if_neg hquote, h]
    show number.1 :: literals (.outside ((consumed ++ number.2).length - number.2.length)) _ = _
    rw [hlength, literals_outside_length]
    rfl

/-- A character that is neither a quote nor the first one of a number. -/
def isWordChar (c : Char) : Bool := c ≠ '"' && c ≠ '-' && !isDigit c

theorem Writes.wordChars {consumed : List Char} (h : consumed.all isWordChar = true) :
    Writes (consumed ++ rest) rest True := by
  induction consumed with
  | nil => exact .of_eq rfl
  | cons c consumed ih =>
    rw [List.all_cons, Bool.and_eq_true] at h
    obtain ⟨hc, hconsumed⟩ := h
    simp only [isWordChar, Bool.and_eq_true, decide_eq_true_eq, Bool.not_eq_true'] at hc
    exact (Writes.cons hc.1.1 hc.1.2 hc.2).after (ih hconsumed)

/-- A minus sign before a word begins no literal. -/
theorem Writes.minus {c : Char} (hdigit : isDigit c = false) :
    Writes ('-' :: c :: rest) (c :: rest) True := by
  refine .of_eq (literals_cons (by decide) ?_)
  show (readDigits (c :: rest)).map _ = none
  rw [readDigits_eq_none hdigit]
  rfl

/-- Words hold no literals, with or without a sign. -/
theorem readWord_writes {α : Type} {words : List (String × α)} {word : α × List Char}
    (hwords : ∀ entry ∈ words, entry.1.toList.all isWordChar = true ∨
      ∃ c letters, entry.1.toList = '-' :: c :: letters ∧ (c :: letters).all isWordChar = true)
    (h : readWord words cs = some word) : Writes cs word.2 True := by
  obtain ⟨entry, hentry, h⟩ := List.exists_of_findSome?_eq_some h
  split at h
  · rename_i hprefix
    obtain ⟨rest, rfl⟩ := hprefix
    obtain rfl := Option.some.inj h
    rw [List.drop_left]
    rcases hwords entry hentry with hplain | ⟨c, letters, hword, hplain⟩
    · exact .wordChars hplain
    · have hc : isDigit c = false := by
        rw [List.all_cons, Bool.and_eq_true] at hplain
        simpa using (Bool.and_eq_true_iff.mp hplain.1).2
      rw [hword]
      exact (Writes.minus hc).after (.wordChars hplain)
  · cases h

theorem jsonWords_letters : ∀ entry ∈ jsonWords, entry.1.toList.all isWordChar = true := by
  decide

theorem jsonConstants_letters : ∀ entry ∈ jsonConstants,
    entry.1.toList.all isWordChar = true ∨
      ∃ c letters, entry.1.toList = '-' :: c :: letters ∧ (c :: letters).all isWordChar = true := by
  intro entry hentry
  simp only [jsonConstants, List.mem_cons, List.not_mem_nil, or_false] at hentry
  rcases hentry with rfl | rfl | rfl
  · exact .inl (by decide)
  · exact .inl (by decide)
  · exact .inr ⟨'I', "nfinity".toList, by decide, by decide⟩

/-! ### Values -/

section

variable {ε α : Type} {checks : ParseChecks ε} {good : α → Prop}

theorem finiteValue_list {items : List PyValue} :
    FiniteValue (.list items) ↔ ∀ value ∈ items, FiniteValue value := by
  constructor
  · exact fun h value hvalue negative hwithin => h negative (.item hvalue hwithin)
  · intro h negative hwithin
    cases hwithin with
    | item hvalue hwithin => exact h _ hvalue negative hwithin

theorem finiteValue_dict {fields : List (Codes × PyValue)} :
    FiniteValue (.dict fields) ↔ ∀ field ∈ fields, FiniteValue field.2 := by
  constructor
  · exact fun h field hfield negative hwithin => h negative (.field hfield hwithin)
  · intro h negative hwithin
    cases hwithin with
    | field hfield hwithin => exact h _ hfield negative hwithin

/-- A value without parts is finite if it is no infinite float. -/
theorem finiteValue_leaf {value : PyValue} (hlist : ∀ items, value ≠ .list items)
    (hdict : ∀ fields, value ≠ .dict fields) (hfloat : ∀ x, value ≠ .float x) :
    FiniteValue value := by
  intro negative hwithin
  cases hwithin with
  | refl => exact hfloat _ rfl
  | item _ _ => exact hlist _ rfl
  | field _ _ => exact hdict _ rfl

/-- A float is finite iff its literal does not overflow. -/
theorem finiteValue_float (literal : NumberLiteral) :
    FiniteValue (.float literal.float) ↔ ¬Overflows literal.exact := by
  unfold NumberLiteral.float
  constructor
  · intro h hover
    rw [if_pos hover] at h
    exact h _ .refl
  · intro hover negative hwithin
    rw [if_neg hover] at hwithin
    cases hwithin

theorem parseNumber_writes {read : PyValue × List Char} (h : parseNumber checks cs = .ok read) :
    Writes cs read.2 (FiniteValue read.1) := by
  unfold parseNumber at h
  obtain ⟨number, hnumber, h⟩ := except_bind_eq_ok.mp h
  obtain ⟨literals, hread, hfits⟩ := readNumber_writes (lift_eq_ok.mp hnumber)
  split at h
  · rename_i hint
    obtain ⟨_, -, h⟩ := except_bind_eq_ok.mp h
    obtain rfl := Except.ok.inj h
    have hfinite : FiniteValue (.int (number.1.signed (digitsValue number.1.digits : ℤ))) :=
      finiteValue_leaf nofun nofun nofun
    exact ⟨literals, hread, (iff_of_true hfinite (.inl hint)).trans hfits⟩
  · rename_i hint
    obtain rfl := Except.ok.inj h
    refine ⟨literals, hread, Iff.trans ?_ hfits⟩
    rw [finiteValue_float, NumberLiteral.Fits, or_iff_right hint]

theorem parseScalar_writes {read : PyValue × List Char} (h : parseScalar checks cs = .ok read) :
    Writes cs read.2 (FiniteValue read.1) := by
  have hword : ∀ {value : PyValue} {rest : List Char}, Writes cs rest True → FiniteValue value →
      Writes cs rest (FiniteValue value) := by
    rintro value rest ⟨literals, hread, htrue⟩ hfinite
    exact ⟨literals, hread, (iff_of_true hfinite trivial).trans htrue⟩
  unfold parseScalar at h
  split at h
  · rename_i word hread
    obtain rfl := Except.ok.inj h
    refine hword (readWord_writes (fun entry he => .inl (jsonWords_letters entry he)) hread) ?_
    obtain ⟨entry, hentry, hfound⟩ := List.exists_of_findSome?_eq_some hread
    split at hfound
    · obtain rfl := Option.some.inj hfound
      simp only [jsonWords, List.mem_cons, List.not_mem_nil, or_false] at hentry
      rcases hentry with rfl | rfl | rfl <;> exact finiteValue_leaf nofun nofun nofun
    · cases hfound
  · split at h
    · rename_i word hread
      obtain ⟨_, -, h⟩ := except_bind_eq_ok.mp h
      have hwrites := readWord_writes jsonConstants_letters hread
      obtain rfl := Except.ok.inj h
      exact hword hwrites (finiteValue_leaf nofun nofun nofun)
    · exact parseNumber_writes h

theorem parseElements_writes {close : Char} (hclose : close ∈ [']', '}'])
    {element : List Char → Except ε (α × List Char)}
    (helement : ∀ {cs read}, element cs = .ok read → Writes cs read.2 (good read.1))
    {fuel : ℕ} {read : List α × List Char}
    (h : parseElements checks close element fuel cs = .ok read) :
    Writes cs read.2 (∀ a ∈ read.1, good a) := by
  induction fuel generalizing cs read with
  | zero => cases h
  | succ fuel ih =>
    unfold parseElements at h
    obtain ⟨first, hfirst, h⟩ := except_bind_eq_ok.mp h
    have hspace := (helement hfirst).before (skipSpace_writes first.2)
    split at h
    · cases h
    · rename_i c rest hrest
      rw [hrest] at hspace
      split at h
      · rename_i hend
        obtain rfl := Except.ok.inj h
        subst hend
        have hclosing : Writes (c :: rest) rest True := by
          simp only [List.mem_cons, List.not_mem_nil, or_false] at hclose
          rcases hclose with rfl | rfl <;> exact .cons (by decide) (by decide) (by decide)
        have hone := hspace.before hclosing
        simpa only [List.mem_singleton, forall_eq] using hone
      · split at h
        · rename_i hcomma
          obtain ⟨others, hothers, h⟩ := except_bind_eq_ok.mp h
          obtain rfl := Except.ok.inj h
          subst hcomma
          have hplain : Writes (',' :: rest) (skipSpace rest) True :=
            (Writes.cons (by decide) (by decide) (by decide)).after (skipSpace_writes rest)
          have hboth := (hspace.before hplain).trans (ih hothers)
          simpa only [List.mem_cons, forall_eq_or_imp] using hboth
        · cases h

theorem parseSequence_writes {close : Char} (hclose : close ∈ [']', '}'])
    {element : List Char → Except ε (α × List Char)}
    (helement : ∀ {cs read}, element cs = .ok read → Writes cs read.2 (good read.1))
    {read : List α × List Char} (h : parseSequence checks close element cs = .ok read) :
    Writes cs read.2 (∀ a ∈ read.1, good a) := by
  have hspace := skipSpace_writes cs
  unfold parseSequence at h
  split at h
  · cases h
  · rename_i c rest hrest
    rw [hrest] at hspace
    split at h
    · rename_i hend
      subst hend
      obtain rfl := Except.ok.inj h
      have hclosing : Writes (c :: rest) rest True := by
        simp only [List.mem_cons, List.not_mem_nil, or_false] at hclose
        rcases hclose with rfl | rfl <;> exact .cons (by decide) (by decide) (by decide)
      simpa using hspace.after hclosing
    · exact hspace.after (parseElements_writes hclose helement h)

theorem parseField_writes {value : List Char → Except ε (α × List Char)}
    (hvalue : ∀ {cs read}, value cs = .ok read → Writes cs read.2 (good read.1))
    {read : (Codes × α) × List Char} (h : parseField checks value cs = .ok read) :
    Writes cs read.2 (good read.1.2) := by
  unfold parseField at h
  split at h
  · obtain ⟨key, hkey, h⟩ := except_bind_eq_ok.mp h
    have hspace := (readString_writes (lift_eq_ok.mp hkey)).after (skipSpace_writes key.2)
    split at h
    · rename_i rest hrest
      rw [hrest] at hspace
      obtain ⟨read, hread, h⟩ := except_bind_eq_ok.mp h
      obtain rfl := Except.ok.inj h
      have hplain : Writes (':' :: rest) (skipSpace rest) True :=
        (Writes.cons (by decide) (by decide) (by decide)).after (skipSpace_writes rest)
      exact (hspace.after hplain).after (hvalue hread)
    · cases h
  · cases h

/-- A value is finite iff the literals that it was read off fit. -/
theorem parseValue_writes {fuel : ℕ} {read : PyValue × List Char}
    (h : parseValue checks fuel cs = .ok read) : Writes cs read.2 (FiniteValue read.1) := by
  induction fuel generalizing cs read with
  | zero => cases h
  | succ fuel ih =>
    unfold parseValue at h
    split at h
    · cases h
    · cases h
    · rename_i c rest heq
      obtain rfl := Nat.succ.inj heq
      split at h
      · -- a string
        rename_i hquote
        subst hquote
        obtain ⟨string, hstring, h⟩ := except_bind_eq_ok.mp h
        obtain rfl := Except.ok.inj h
        obtain ⟨literals, hread, htrue⟩ := readString_writes (lift_eq_ok.mp hstring)
        have hfinite : FiniteValue (.text string.1) := finiteValue_leaf nofun nofun nofun
        exact ⟨literals, hread, (iff_of_true hfinite trivial).trans htrue⟩
      · split at h
        · -- an object
          rename_i hbrace
          subst hbrace
          obtain ⟨fields, hfields, h⟩ := except_bind_eq_ok.mp h
          obtain ⟨_, -, h⟩ := except_bind_eq_ok.mp h
          obtain rfl := Except.ok.inj h
          have hinner : Writes rest fields.2 (∀ field ∈ fields.1, FiniteValue field.2) :=
            parseSequence_writes (by decide)
              (fun hread => parseField_writes (fun hvalue => ih hvalue) hread) hfields
          rw [← finiteValue_dict] at hinner
          exact (Writes.cons (by decide) (by decide) (by decide)).after hinner
        · split at h
          · -- an array
            rename_i hbracket
            subst hbracket
            obtain ⟨items, hitems, h⟩ := except_bind_eq_ok.mp h
            obtain rfl := Except.ok.inj h
            have hinner := parseSequence_writes (by decide) (fun hvalue => ih hvalue) hitems
            rw [← finiteValue_list] at hinner
            exact (Writes.cons (by decide) (by decide) (by decide)).after hinner
          · exact parseScalar_writes h

/-- The value of a text is finite iff all literals of the text fit. -/
theorem loads_finite_iff {text : List Char} {value : PyValue} (h : loads checks text = .ok value) :
    FiniteValue value ↔ ∀ literal ∈ numberLiterals text, literal.Fits := by
  unfold loads at h
  split at h
  · cases h
  · obtain ⟨read, hread, h⟩ := except_bind_eq_ok.mp h
    split at h
    · rename_i hend
      obtain rfl := Except.ok.inj h
      have hspace := (parseValue_writes hread).before (skipSpace_writes read.2)
      rw [hend] at hspace
      obtain ⟨literals, htext, hfits⟩ := (skipSpace_writes text).after hspace
      have hall : numberLiterals text = literals := htext.trans (List.append_nil _)
      rw [hall]
      exact hfits
    · cases h

end

end Text
