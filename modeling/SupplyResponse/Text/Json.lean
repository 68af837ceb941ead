/-
JSON values, and the texts of objects of strings.

* `Json` — what `json.loads` returns, with `get` and `has` of its dictionaries
  and the comparisons of its numbers with a finite one;
* `dumpsText` — a string as `json.dumps` writes it, in ASCII;
* `readChar` — reads one character of such a string back;
* `dumpsTexts`, `dumpsTexts_injective` — lists of strings without blanks, and
  different lists have different texts.
-/
import Mathlib.Data.List.Basic
import Mathlib.Data.Rat.Defs
import Mathlib.Tactic.Common

namespace Text

inductive Json
  | null
  | bool (value : Bool)
  | number (value : ℚ)
  | infinity (negative : Bool)
  | nan
  | text (value : String)
  | list (items : List Json)
  | dict (fields : List (String × Json))

namespace Json

/-- The value of a key of a dictionary. -/
def find? : Json → String → Option Json
  | dict fields, key => fields.lookup key
  | _, _ => none

/-- `value.get(key)`. -/
def get (value : Json) (key : String) : Json := (value.find? key).getD null

/-- `key in value`. -/
def has (value : Json) (key : String) : Bool := (value.find? key).isSome

def isDict : Json → Bool
  | dict _ => true
  | _ => false

/-- `isinstance(value, str)`, with the string. -/
def text? : Json → Option String
  | text value => some value
  | _ => none

/-- `isinstance(value, list)`, with the items. -/
def list? : Json → Option (List Json)
  | list items => some items
  | _ => none

def isNull : Json → Bool
  | null => true
  | _ => false

/-- `value == n`. -/
def isNumber : Json → ℚ → Bool
  | number value, n => value == n
  | _, _ => false

/-- `isinstance(value, (int, float)) and not isinstance(value, bool)`. -/
def isNumeric : Json → Bool
  | number _ | infinity _ | nan => true
  | _ => false

/-- `value <= x`, for a number. -/
def leNumber : Json → ℚ → Bool
  | number value, x => value ≤ x
  | infinity negative, _ => negative
  | _, _ => false

/-- `value > x`, for a number. -/
def gtNumber : Json → ℚ → Bool
  | number value, x => x < value
  | infinity negative, _ => !negative
  | _, _ => false

/-- The value can be a member of a set. -/
def hashable : Json → Bool
  | list _ | dict _ => false
  | _ => true

theorem text?_eq_some {value : Json} {s : String} : value.text? = some s ↔ value = text s := by
  cases value <;> simp [text?]

theorem list?_eq_some {value : Json} {items : List Json} :
    value.list? = some items ↔ value = list items := by
  cases value <;> simp [list?]

end Json

/-! ### Strings -/

/-- A digit of `\uXXXX`. -/
def lowerHexDigit (n : ℕ) : Char := Char.ofNat (if n < 10 then 0x30 + n else 0x57 + n)

/-- `\uXXXX`. -/
def unicodeEscape (n : ℕ) : List Char :=
  ['\\', 'u', lowerHexDigit (n / 4096 % 16), lowerHexDigit (n / 256 % 16),
    lowerHexDigit (n / 16 % 16), lowerHexDigit (n % 16)]

/-- The short escapes. -/
def shortEscape? (c : Char) : Option Char :=
  [('"', '"'), ('\\', '\\'), ('\n', 'n'), ('\r', 'r'), ('\t', 't'), ('\x0c', 'f'),
    ('\x08', 'b')].lookup c

/-- A character inside a string: printable ASCII as it is, the rest escaped, with a
surrogate pair from U+10000 on. -/
def escapeChar (c : Char) : List Char :=
  match shortEscape? c with
  | some e => ['\\', e]
  | none =>
    if 0x20 ≤ c.toNat ∧ c.toNat ≤ 0x7e then [c]
    else if c.toNat < 0x10000 then unicodeEscape c.toNat
    else
      let v := c.toNat - 0x10000
      unicodeEscape (0xd800 + v / 1024) ++ unicodeEscape (0xdc00 + v % 1024)

/-- `json.dumps(text)`. -/
def dumpsText (s : String) : List Char := '"' :: (s.toList.flatMap escapeChar ++ ['"'])

/-- `json.dumps(texts, separators=(",", ":"))`, behind the opening bracket. -/
def dumpsItems : List String → List Char
  | [] => [']']
  | [s] => dumpsText s ++ [']']
  | s :: rest => dumpsText s ++ ',' :: dumpsItems rest

/-- `json.dumps(texts, separators=(",", ":"))`. -/
def dumpsTexts (texts : List String) : String := String.ofList ('[' :: dumpsItems texts)

/-! ### Reading a string back -/

/-- The value of a digit of `\uXXXX`. -/
def hexValue (c : Char) : ℕ := if c.toNat < 0x3a then c.toNat - 0x30 else c.toNat - 0x57

theorem hexValue_lowerHexDigit : ∀ n < 16, hexValue (lowerHexDigit n) = n := by decide

/-- The code of four digits, and the rest. -/
def readQuad : List Char → Option (ℕ × List Char)
  | a :: b :: c :: d :: rest =>
    some (4096 * hexValue a + 256 * hexValue b + 16 * hexValue c + hexValue d, rest)
  | _ => none

/-- The character of a short escape. -/
def shortChar? (e : Char) : Option Char :=
  [('"', '"'), ('\\', '\\'), ('n', '\n'), ('r', '\r'), ('t', '\t'), ('f', '\x0c'),
    ('b', '\x08')].lookup e

/-- The code of the second half of a surrogate pair, and the rest. -/
def readLow : List Char → Option (ℕ × List Char)
  | '\\' :: 'u' :: rest => readQuad rest
  | _ => none

/-- A code behind `\u`, with its second half if it has one. -/
def joinSurrogates : ℕ × List Char → Option (ℕ × List Char)
  | (v, rest) =>
    if 0xd800 ≤ v ∧ v < 0xdc00 then
      (readLow rest).map fun low => (0x10000 + 1024 * (v - 0xd800) + (low.1 - 0xdc00), low.2)
    else some (v, rest)

/-- The code of an escape, behind its backslash. -/
def readEscape : List Char → Option (ℕ × List Char)
  | 'u' :: rest => (readQuad rest).bind joinSurrogates
  | e :: rest => (shortChar? e).map fun c => (c.toNat, rest)
  | [] => none

/-- The code of the first character of a string, and the rest. -/
def readChar : List Char → Option (ℕ × List Char)
  | '\\' :: rest => readEscape rest
  | c :: rest => some (c.toNat, rest)
  | [] => none

theorem readQuad_digits {n : ℕ} (hn : n < 65536) (rest : List Char) :
    readQuad (lowerHexDigit (n / 4096 % 16) :: lowerHexDigit (n / 256 % 16) ::
      lowerHexDigit (n / 16 % 16) :: lowerHexDigit (n % 16) :: rest) = some (n, rest) := by
  have hdigit : ∀ m, hexValue (lowerHexDigit (m % 16)) = m % 16 :=
    fun m => hexValue_lowerHexDigit _ (Nat.mod_lt _ (by decide))
  rw [readQuad, hdigit, hdigit, hdigit, hdigit]
  congr 2
  omega

theorem readChar_unicodeEscape {n : ℕ} (hn : n < 65536) (rest : List Char) :
    readChar (unicodeEscape n ++ rest) = joinSurrogates (n, rest) := by
  simp only [unicodeEscape, List.cons_append, List.nil_append, readChar, readEscape,
    readQuad_digits hn, Option.bind_some]

theorem readChar_of_ne {c : Char} (hc : c ≠ '\\') (rest : List Char) :
    readChar (c :: rest) = some (c.toNat, rest) := by
  unfold readChar
  split
  · rename_i heq
    exact absurd (List.cons.inj heq).1 hc
  · rename_i heq
    obtain ⟨rfl, rfl⟩ := List.cons.inj heq
    rfl
  · rename_i heq
    cases heq

theorem toNat_valid (c : Char) : c.toNat < 0xd800 ∨ 0xdfff < c.toNat ∧ c.toNat < 0x110000 := by
  have h := c.valid
  simp only [UInt32.isValidChar, Nat.isValidChar] at h
  exact h

/-- The first character of an escaped string is read back. -/
theorem readChar_escapeChar (c : Char) (rest : List Char) :
    readChar (escapeChar c ++ rest) = some (c.toNat, rest) := by
  unfold escapeChar
  split
  · -- one of the seven short escapes
    rename_i e he
    obtain ⟨before, after, hlist, -⟩ := List.lookup_eq_some_iff.mp he
    have hmem : (c, e) ∈ before ++ (c, e) :: after := List.mem_append_right _ (List.mem_cons_self ..)
    rw [← hlist] at hmem
    simp only [List.mem_cons, Prod.mk.injEq, List.not_mem_nil, or_false] at hmem
    rcases hmem with ⟨rfl, rfl⟩ | ⟨rfl, rfl⟩ | ⟨rfl, rfl⟩ | ⟨rfl, rfl⟩ | ⟨rfl, rfl⟩ | ⟨rfl, rfl⟩ |
      ⟨rfl, rfl⟩ <;> rfl
  · rename_i hshort
    have hbackslash : c ≠ '\\' := by
      rintro rfl
      exact absurd hshort (by decide)
    split
    · exact readChar_of_ne hbackslash rest
    · split
      · rename_i hlow
        -- no character is half of a pair
        rw [readChar_unicodeEscape hlow, joinSurrogates, if_neg]
        have hvalid := toNat_valid c
        omega
      · rename_i hhigh
        have hvalid := toNat_valid c
        have hfirst : 0xd800 + (c.toNat - 0x10000) / 1024 < 65536 := by omega
        have hsecond : 0xdc00 + (c.toNat - 0x10000) % 1024 < 65536 := by omega
        rw [List.append_assoc, readChar_unicodeEscape hfirst, joinSurrogates, if_pos (by omega)]
        have hlow : readLow (unicodeEscape (0xdc00 + (c.toNat - 0x10000) % 1024) ++ rest) =
            some (0xdc00 + (c.toNat - 0x10000) % 1024, rest) := by
          simp only [unicodeEscape, List.cons_append, List.nil_append, readLow,
            readQuad_digits hsecond]
        have hvalue : 0x10000 + 1024 * (0xd800 + (c.toNat - 0x10000) / 1024 - 0xd800) +
            (0xdc00 + (c.toNat - 0x10000) % 1024 - 0xdc00) = c.toNat := by omega
        simp only [hlow, Option.map_some, hvalue]

theorem escapeChar_inj {c c' : Char} {rest rest' : List Char}
    (h : escapeChar c ++ rest = escapeChar c' ++ rest') : c = c' ∧ rest = rest' := by
  have hread := congrArg readChar h
  rw [readChar_escapeChar, readChar_escapeChar] at hread
  obtain ⟨hcode, hrest⟩ := Prod.mk.inj (Option.some.inj hread)
  exact ⟨Char.toNat_inj.mp hcode, hrest⟩

/-- A string ends before its closing quote. -/
theorem escapeChar_ne_quote (c : Char) (rest rest' : List Char) :
    escapeChar c ++ rest ≠ '"' :: rest' := by
  intro h
  have hread := congrArg readChar h
  rw [readChar_escapeChar, readChar_of_ne (by decide)] at hread
  obtain rfl := Char.toNat_inj.mp (Prod.mk.inj (Option.some.inj hread)).1
  exact absurd h (by simp [escapeChar, shortEscape?])

theorem escapes_inj {cs cs' rest rest' : List Char}
    (h : cs.flatMap escapeChar ++ '"' :: rest = cs'.flatMap escapeChar ++ '"' :: rest') :
    cs = cs' ∧ rest = rest' := by
  induction cs generalizing cs' with
  | nil =>
    cases cs' with
    | nil => exact ⟨rfl, (List.cons.inj h).2⟩
    | cons c' cs' =>
      rw [List.flatMap_cons, List.append_assoc] at h
      exact absurd h.symm (escapeChar_ne_quote c' _ rest)
  | cons c cs ih =>
    rw [List.flatMap_cons, List.append_assoc] at h
    cases cs' with
    | nil => exact absurd h (escapeChar_ne_quote c _ rest')
    | cons c' cs' =>
      rw [List.flatMap_cons, List.append_assoc] at h
      obtain ⟨rfl, htail⟩ := escapeChar_inj h
      obtain ⟨rfl, hrest⟩ := ih htail
      exact ⟨rfl, hrest⟩

/-- Where the texts of two strings begin alike, the strings and the rests are equal. -/
theorem dumpsText_inj {s s' : String} {rest rest' : List Char}
    (h : dumpsText s ++ rest = dumpsText s' ++ rest') : s = s' ∧ rest = rest' := by
  unfold dumpsText at h
  rw [List.cons_append, List.cons_append, List.append_assoc, List.append_assoc] at h
  obtain ⟨hchars, hrest⟩ := escapes_inj (List.cons.inj h).2
  exact ⟨String.toList_inj.mp hchars, hrest⟩

theorem dumpsItems_ne_bracket (s : String) (rest : List String) (tail : List Char) :
    dumpsItems (s :: rest) ≠ ']' :: tail := by
  intro h
  have hhead : (dumpsItems (s :: rest)).head? = some '"' := by
    cases rest <;> rfl
  rw [h] at hhead
  exact absurd (Option.some.inj hhead) (by decide)

theorem dumpsItems_injective {texts texts' : List String}
    (h : dumpsItems texts = dumpsItems texts') : texts = texts' := by
  induction texts generalizing texts' with
  | nil =>
    cases texts' with
    | nil => rfl
    | cons s' rest' => exact absurd h.symm (dumpsItems_ne_bracket s' rest' [])
  | cons s rest ih =>
    cases texts' with
    | nil => exact absurd h (dumpsItems_ne_bracket s rest [])
    | cons s' rest' =>
      cases rest with
      | nil =>
        cases rest' with
        | nil => rw [(dumpsText_inj h).1]
        | cons t' rest' => exact absurd (dumpsText_inj h).2 (by simp)
      | cons t rest =>
        cases rest' with
        | nil => exact absurd (dumpsText_inj h).2 (by simp)
        | cons t' rest' =>
          obtain ⟨rfl, htail⟩ := dumpsText_inj h
          rw [ih (List.cons.inj htail).2]

/-- Different lists of strings have different texts. -/
theorem dumpsTexts_injective : Function.Injective dumpsTexts := by
  intro texts texts' h
  exact dumpsItems_injective (List.cons.inj (String.ofList_injective h)).2

end Text
