/-
Reading JSON texts (`json.loads` with its hooks).

* `PyValue` — what a text denotes, with `nesting` and the parts `Within` it;
* `ParseChecks` — what the hooks may reject;
* `readString`, `readNumber`, `readWord` — the tokens;
* `parseValue`, `loads` — values and whole texts.
-/
import Mathlib.Data.Int.Log
import Mathlib.Data.Rat.Floor
import SupplyResponse.Text.Percent

namespace Text

/-! ### Values -/

/-- A Python string, as its code points. -/
abbrev Codes := List ℕ

/-- `NaN`, `Infinity` and `-Infinity`, which are no JSON. -/
inductive JsonConstant
  | nan
  | infinity
  | negInfinity
  deriving DecidableEq, Repr

inductive PyFloat
  | finite (value : ℚ)
  | infinite (negative : Bool)

inductive PyValue
  | null
  | bool (value : Bool)
  | int (value : ℤ)
  | float (value : PyFloat)
  | constant (name : JsonConstant)
  | text (codes : Codes)
  | list (items : List PyValue)
  | dict (fields : List (Codes × PyValue))

namespace PyValue

mutual

/-- How deep lists and dictionaries are nested. -/
def nesting : PyValue → ℕ
  | .list items => nestingItems items + 1
  | .dict fields => nestingFields fields + 1
  | _ => 0

def nestingItems : List PyValue → ℕ
  | [] => 0
  | value :: items => max value.nesting (nestingItems items)

def nestingFields : List (Codes × PyValue) → ℕ
  | [] => 0
  | (_, value) :: fields => max value.nesting (nestingFields fields)

end

/-- A value is part of another one, at any level. -/
inductive Within (part : PyValue) : PyValue → Prop
  | refl : Within part part
  | item {value : PyValue} {items : List PyValue} :
      value ∈ items → Within part value → Within part (.list items)
  | field {key : Codes} {value : PyValue} {fields : List (Codes × PyValue)} :
      (key, value) ∈ fields → Within part value → Within part (.dict fields)

end PyValue

/-! ### Strings -/

/-- The code of four hexadecimal digits. -/
def hexQuad : List Char → Option (ℕ × List Char)
  | a :: b :: c :: d :: rest => do
    let a ← hexValue? a
    let b ← hexValue? b
    let c ← hexValue? c
    let d ← hexValue? d
    pure (4096 * a + 256 * b + 16 * c + d, rest)
  | _ => none

/-- A code behind `\u`, with the second half of a surrogate pair if it has one. -/
def joinPair (high : ℕ) (rest : List Char) : Option (ℕ × List Char) :=
  if 0xd800 ≤ high ∧ high < 0xdc00 then
    match rest with
    | '\\' :: 'u' :: rest' =>
      (hexQuad rest').map fun low =>
        if 0xdc00 ≤ low.1 ∧ low.1 < 0xe000 then
          (0x10000 + 1024 * (high - 0xd800) + (low.1 - 0xdc00), low.2)
        else (high, rest)
    | _ => some (high, rest)
  else some (high, rest)

def escapes : List (Char × Char) :=
  [('"', '"'), ('\\', '\\'), ('/', '/'), ('b', '\x08'), ('f', '\x0c'), ('n', '\n'), ('r', '\r'),
    ('t', '\t')]

/-- The code of an escape, behind its backslash. -/
def readEscapeCode : List Char → Option (ℕ × List Char)
  | [] => none
  | c :: rest =>
    if c = 'u' then (hexQuad rest).bind fun quad => joinPair quad.1 quad.2
    else (escapes.lookup c).map fun e => (e.toNat, rest)

/-- One character inside a string; `none` is its end.  Control characters have to be
escaped. -/
def readStringChar : List Char → Option (Option ℕ × List Char)
  | [] => none
  | c :: rest =>
    if c = '"' then some (none, rest)
    else if c = '\\' then (readEscapeCode rest).map fun code => (some code.1, code.2)
    else if c.toNat < 0x20 then none
    else some (some c.toNat, rest)

def readStringChars : ℕ → List Char → Option (Codes × List Char)
  | 0, _ => none
  | fuel + 1, cs =>
    match readStringChar cs with
    | none => none
    | some (none, rest) => some ([], rest)
    | some (some code, rest) =>
      (readStringChars fuel rest).map fun string => (code :: string.1, string.2)

/-- `scanstring`, behind the opening quote. -/
def readString (cs : List Char) : Option (Codes × List Char) := readStringChars (cs.length + 1) cs

/-! ### Numbers and words -/

def isDigit (c : Char) : Bool := '0' ≤ c ∧ c ≤ '9'

structure NumberLiteral where
  negative : Bool
  digits : List Char
  fraction : List Char
  exponent : Option (Bool × List Char)

def digitsValue (digits : List Char) : ℕ :=
  digits.foldl (fun n c => 10 * n + (c.toNat - '0'.toNat)) 0

/-- `0`, or digits without a leading zero. -/
def readDigits : List Char → Option (List Char × List Char)
  | [] => none
  | c :: rest =>
    if c = '0' then some ([c], rest)
    else if isDigit c then some (c :: rest.takeWhile isDigit, rest.dropWhile isDigit)
    else none

/-- `(\.[0-9]+)?` -/
def readFraction (cs : List Char) : List Char × List Char :=
  match cs with
  | '.' :: rest =>
    if rest.takeWhile isDigit = [] then ([], cs)
    else (rest.takeWhile isDigit, rest.dropWhile isDigit)
  | _ => ([], cs)

def readSign (cs : List Char) : Bool × List Char :=
  match cs with
  | '-' :: rest => (true, rest)
  | '+' :: rest => (false, rest)
  | _ => (false, cs)

/-- `([eE][-+]?[0-9]+)?` -/
def readExponent (cs : List Char) : Option (Bool × List Char) × List Char :=
  match cs with
  | c :: rest =>
    if c ∈ ['e', 'E'] then
      let sign := readSign rest
      if sign.2.takeWhile isDigit = [] then (none, cs)
      else (some (sign.1, sign.2.takeWhile isDigit), sign.2.dropWhile isDigit)
    else (none, cs)
  | [] => (none, cs)

def readMinus (cs : List Char) : Bool × List Char :=
  match cs with
  | '-' :: rest => (true, rest)
  | _ => (false, cs)

/-- `match_number`. -/
def readNumber (cs : List Char) : Option (NumberLiteral × List Char) :=
  let minus := readMinus cs
  (readDigits minus.2).map fun digits =>
    let fraction := readFraction digits.2
    let exponent := readExponent fraction.2
    (⟨minus.1, digits.1, fraction.1, exponent.1⟩, exponent.2)

namespace NumberLiteral

def isInt (literal : NumberLiteral) : Bool :=
  literal.fraction.isEmpty && literal.exponent.isNone

def signed {α : Type} [Neg α] (literal : NumberLiteral) (x : α) : α :=
  if literal.negative then -x else x

/-- The number that is written. -/
def exact (literal : NumberLiteral) : ℚ :=
  let scale : ℤ := (literal.exponent.elim 0 fun e =>
    if e.1 then -(digitsValue e.2 : ℤ) else digitsValue e.2) - literal.fraction.length
  literal.signed (digitsValue (literal.digits ++ literal.fraction) * (10 : ℚ) ^ scale)

end NumberLiteral

/-- The nearest integer, the even one between two. -/
def roundHalfEven (q : ℚ) : ℤ :=
  let below := ⌊q⌋
  if q - below < 1 / 2 then below
  else if 1 / 2 < q - below then below + 1
  else if below % 2 = 0 then below else below + 1

/-- The nearest multiple of the unit in the last place of a double. -/
def roundDouble (q : ℚ) : ℚ :=
  let unit := max (Int.log 2 |q| - 52) (-1074)
  roundHalfEven (q / 2 ^ unit) * 2 ^ unit

/-- What is rounded to no double. -/
def Overflows (q : ℚ) : Prop := 2 ^ 1024 - 2 ^ 970 ≤ |q|

instance (q : ℚ) : Decidable (Overflows q) := inferInstanceAs (Decidable (_ ≤ _))

/-- `float(literal)`. -/
def NumberLiteral.float (literal : NumberLiteral) : PyFloat :=
  if Overflows literal.exact then .infinite literal.negative else .finite (roundDouble literal.exact)

/-- The first word of a table that the text begins with. -/
def readWord {α : Type} (words : List (String × α)) (cs : List Char) : Option (α × List Char) :=
  words.findSome? fun word =>
    if word.1.toList <+: cs then some (word.2, cs.drop word.1.toList.length) else none

def jsonWords : List (String × PyValue) :=
  [("null", .null), ("true", .bool true), ("false", .bool false)]

def jsonConstants : List (String × JsonConstant) :=
  [("NaN", .nan), ("Infinity", .infinity), ("-Infinity", .negInfinity)]

def isJsonSpace (c : Char) : Bool := c ∈ [' ', '\t', '\n', '\r']

def skipSpace (cs : List Char) : List Char := cs.dropWhile isJsonSpace

/-! ### Values of a text -/

/-- What may be rejected besides malformed texts: the fields of an object, constants,
and the digits of an integer. -/
structure ParseChecks (ε : Type) where
  malformed : ε
  pairs : List (Codes × PyValue) → Except ε Unit
  constant : JsonConstant → Except ε Unit
  int : List Char → Except ε Unit

namespace ParseChecks

variable {ε : Type} (checks : ParseChecks ε)

/-- A token, or a malformed text. -/
def lift {α : Type} : Option α → Except ε α
  | some a => .ok a
  | none => .error checks.malformed

end ParseChecks

/-- Everything but malformed texts is accepted. -/
def noChecks : ParseChecks Unit where
  malformed := ()
  pairs _ := .ok ()
  constant _ := .ok ()
  int _ := .ok ()

section

variable {ε α : Type} (checks : ParseChecks ε)

/-- Elements, up to the closing bracket. -/
def parseElements (close : Char) (element : List Char → Except ε (α × List Char)) :
    ℕ → List Char → Except ε (List α × List Char)
  | 0, _ => .error checks.malformed
  | fuel + 1, cs => do
    let first ← element cs
    match skipSpace first.2 with
    | [] => .error checks.malformed
    | c :: rest =>
      if c = close then pure ([first.1], rest)
      else if c = ',' then do
        let others ← parseElements close element fuel (skipSpace rest)
        pure (first.1 :: others.1, others.2)
      else .error checks.malformed

/-- What stands in brackets, behind the opening one. -/
def parseSequence (close : Char) (element : List Char → Except ε (α × List Char))
    (cs : List Char) : Except ε (List α × List Char) :=
  match skipSpace cs with
  | [] => .error checks.malformed
  | c :: rest =>
    if c = close then .ok ([], rest)
    else parseElements checks close element (rest.length + 1) (c :: rest)

/-- A key with its value. -/
def parseField (value : List Char → Except ε (α × List Char)) (cs : List Char) :
    Except ε ((Codes × α) × List Char) :=
  match cs with
  | '"' :: rest => do
    let key ← checks.lift (readString rest)
    match skipSpace key.2 with
    | ':' :: rest => do
      let value ← value (skipSpace rest)
      pure ((key.1, value.1), value.2)
    | _ => .error checks.malformed
  | _ => .error checks.malformed

def parseNumber (cs : List Char) : Except ε (PyValue × List Char) := do
  let number ← checks.lift (readNumber cs)
  if number.1.isInt then do
    checks.int number.1.digits
    pure (.int (number.1.signed (digitsValue number.1.digits : ℤ)), number.2)
  else pure (.float number.1.float, number.2)

/-- A word, a constant or a number. -/
def parseScalar (cs : List Char) : Except ε (PyValue × List Char) :=
  match readWord jsonWords cs with
  | some word => .ok word
  | none =>
    match readWord jsonConstants cs with
    | some word => do
      checks.constant word.1
      pure (.constant word.1, word.2)
    | none => parseNumber checks cs

/-- `scan_once`; every level of nesting takes one of the fuel. -/
def parseValue : ℕ → List Char → Except ε (PyValue × List Char)
  | 0, _ => .error checks.malformed
  | _ + 1, [] => .error checks.malformed
  | fuel + 1, c :: rest =>
    if c = '"' then do
      let string ← checks.lift (readString rest)
      pure (.text string.1, string.2)
    else if c = '{' then do
      let fields ← parseSequence checks '}' (parseField checks (parseValue fuel)) rest
      checks.pairs fields.1
      pure (.dict fields.1, fields.2)
    else if c = '[' then do
      let items ← parseSequence checks ']' (parseValue fuel) rest
      pure (.list items.1, items.2)
    else parseScalar checks (c :: rest)

/-- `json.loads`. -/
def loads (text : List Char) : Except ε PyValue :=
  if text.head? = some '\ufeff' then .error checks.malformed
  else do
    let value ← parseValue checks (text.length + 1) (skipSpace text)
    if skipSpace value.2 = [] then pure value.1 else .error checks.malformed

end

end Text
