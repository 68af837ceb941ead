/-
The supplier's statement (`data/domain/inbound.py`).

* `statement`, `willStatement` — the two sentences, as regular expressions with groups;
* `parseSupplierDisruption` — the one facts a text states, or the error of the service.
-/
import SupplyResponse.Domain.Cases
import SupplyResponse.Numbers.Calendar
import SupplyResponse.Text.Pattern

namespace SupplyResponse

namespace Inbound

open Regex Calendar

/-! ### The sentences -/

/-- The names of the groups. -/
inductive Blank
  | original
  | part
  | plant
  | due
  | partialQuantity
  | partialDue
  | cost
  | remaining
  deriving DecidableEq

/-- `re.IGNORECASE`: the letters of other cases, with the four letters outside ASCII that
`[a-z]` takes. -/
def foldCase (c : Char) : Char :=
  -- the dotted and the dotless i, the long s and the Kelvin sign
  if c = '\u0130' ∨ c = '\u0131' then 'i'
  else if c = '\u017f' then 's'
  else if c = '\u212a' then 'k'
  else c.toLower

def digits : List Char := "0123456789".toList

def letters : List Char := "abcdefghijklmnopqrstuvwxyz".toList

def text (s : String) : Pattern Blank := .text (s.toList.map foldCase)

/-- `,[0-9]{3}`. -/
def thousandsGroup : Pattern Blank := .seq (text ",") (.run digits 3 (some 3))

/-- `_QUANTITY`. -/
def quantity : Pattern Blank :=
  .alt (.seq (.run "123456789".toList 1 (some 1)) (.run digits 0 (some 8)))
    (.seqs [.run "123456789".toList 1 (some 1), .run digits 0 (some 2), thousandsGroup,
      .alt thousandsGroup (text "")])

/-- `[A-Za-z]+ [0-9]{1,2}`. -/
def monthDay : Pattern Blank := .seqs [.run letters 1 none, text " ", .run digits 1 (some 2)]

/-- `, [0-9]{4}`. -/
def commaYear : Pattern Blank := .seq (text ", ") (.run digits 4 (some 4))

/-- `_DATE`. -/
def datePattern : Pattern Blank :=
  .alt (.seq monthDay commaYear)
    (.seqs [.run digits 4 (some 4), text "-", .run digits 2 (some 2), text "-",
      .run digits 2 (some 2)])

/-- `RL-MAT-[0-9]+`. -/
def partPattern : Pattern Blank := .seq (text "RL-MAT-") (.run digits 1 none)

/-- `[0-9]+\.[0-9]{2}`. -/
def costPattern : Pattern Blank :=
  .seqs [.run digits 1 none, text ".", .run digits 2 (some 2)]

/-- `_STATEMENT`. -/
def statement : Pattern Blank :=
  .seqs [text "Supplier Alpha cannot deliver ", .group .original quantity, text " units of ",
    .group .part partPattern, text " ", .alt (text "to") (text "at"), text " ",
    .group .plant (text "Chicago"), text " on ", .group .due datePattern,
    text ". We can offer a partial shipment of ", .group .partialQuantity quantity,
    text " units by air arriving ", .group .partialDue datePattern,
    text ", at an additional USD ", .group .cost costPattern,
    text " per unit. The remaining ", .group .remaining quantity,
    text " units have no confirmed delivery date."]

/-- `_WILL_STATEMENT`. -/
def willStatement : Pattern Blank :=
  .seqs [.alt (text "FYI ") (text ""), text "Supplier Alpha cannot deliver the ",
    .group .original quantity, text " units of component ", .group .part partPattern,
    text " originally due at the ", .group .plant (text "Chicago"), text " plant on ",
    .group .due datePattern, text ". We can offer a partial shipment of ",
    .group .partialQuantity quantity, text " units by air on ",
    .group .partialDue (.seq monthDay (.alt commaYear (text ""))),
    text " at an additional cost of $", .group .cost costPattern,
    text " per unit. We do not have a confirmed delivery date for the remaining ",
    .group .remaining quantity, text " units."]

/-! ### The values -/

/-- `text.split()`. -/
def splitWords (s : List Char) : List (List Char) := (s.splitOnP isSpace).filter (· ≠ [])

/-- `" ".join(text.split())`. -/
def normalized (s : List Char) : List Char := " ".toList.intercalate (splitWords s)

/-- `int(value)`, of digits. -/
def int? (value : List Char) : Option ℕ :=
  if value ≠ [] ∧ value.all Char.isDigit = true then some (Nat.ofDigitChars 10 value 0) else none

/-- `int(value.replace(",", ""))`. -/
def quantity? (value : List Char) : Option ℕ := int? (value.filter (· ≠ ','))

/-- `Decimal(value)`, of digits with a point. -/
def decimal? (value : List Char) : Option Money := do
  let whole ← int? (value.takeWhile (· ≠ '.'))
  let fraction := (value.dropWhile (· ≠ '.')).drop 1
  let rest ← int? fraction
  some (whole + rest / 10 ^ fraction.length)

/-- `date.fromisoformat(value)`, of a text `YYYY-MM-DD`. -/
def fromIsoFormat (value : List Char) : Option CalendarDate :=
  if value.length = 10 ∧ value[4]? = some '-' ∧ value[7]? = some '-' then do
    let year ← int? (value.take 4)
    let month ← int? ((value.drop 5).take 2)
    let day ← int? (value.drop 8)
    date? year month day
  else none

/-- The names that `%B` reads, in lower case. -/
def monthNames : List (List Char) :=
  ["january", "february", "march", "april", "may", "june", "july", "august", "september",
    "october", "november", "december"].map String.toList

/-- `datetime.strptime(value, "%B %d, %Y").date()`, of words with single spaces. -/
def strptime (value : List Char) : Option CalendarDate := do
  let month := (value.takeWhile (· ≠ ' ')).map Char.toLower
  let rest := (value.dropWhile (· ≠ ' ')).drop 1
  let day ← int? (rest.takeWhile (· ≠ ','))
  -- the comma, a space and the year
  let ending := rest.dropWhile (· ≠ ',')
  let year ← int? (ending.drop 2)
  if monthNames.contains month = true ∧ (rest.takeWhile (· ≠ ',')).length ≤ 2 ∧
      ending.take 2 = ", ".toList ∧ (ending.drop 2).length = 4 then
    date? year (monthNames.idxOf month + 1) day
  else none

/-- `value[0].isdigit()`. -/
def startsWithDigit (value : List Char) : Bool := value.head?.any Char.isDigit

/-- `_date`. -/
def date (value : List Char) : Option CalendarDate :=
  if startsWithDigit value then fromIsoFormat value else strptime value

/-- `match.groupdict()[key]`. -/
def valueOf (values : Captures Blank) (key : Blank) : List Char := (values.lookup key).getD []

/-- The date of the partial delivery, in the year of the original one if it names none. -/
def withYear (partialDue : List Char) (due : CalendarDate) : List Char :=
  if startsWithDigit partialDue = false ∧ ',' ∉ partialDue then
    -- the year is written without zeros, so one below 1000 has too few digits to be read
    partialDue ++ ", ".toList ++ (toString due.year).toList
  else partialDue

/-- The facts that the groups state; `none` where the source raises `ValueError`. -/
def readFacts (values : Captures Blank) : Option SupplierDisruptionFacts := do
  let original ← quantity? (valueOf values .original)
  let partialQuantity ← quantity? (valueOf values .partialQuantity)
  let remaining ← quantity? (valueOf values .remaining)
  let due ← date (valueOf values .due)
  let partialDue ← date (withYear (valueOf values .partialDue) due)
  let cost ← decimal? (valueOf values .cost)
  -- the bounds of the fields, and the two checks of the parser
  if 0 < original ∧ 0 < partialQuantity ∧ 0 ≤ cost ∧ 0 < remaining ∧
      original = partialQuantity + remaining ∧ ¬partialDue.ordinal < due.ordinal then
    some
      { originalQuantity := original
        partId := String.ofList ((valueOf values .part).map Char.toUpper)
        plantName := "Chicago"
        originalDueDate := due.ordinal
        partialQuantity := partialQuantity
        partialDueDate := partialDue.ordinal
        additionalCostPerUnit := cost
        remainingQuantity := remaining
        recoveryDate := none }
  else none

/-- `_STATEMENT.fullmatch(normalized) or _WILL_STATEMENT.fullmatch(normalized)`. -/
def match? (s : List Char) : Option (Captures Blank) :=
  (fullmatch foldCase statement s).or (fullmatch foldCase willStatement s)

/-- `parse_supplier_disruption`, with the code of `InboundEmailError`. -/
def parseSupplierDisruption (text : String) : Except String SupplierDisruptionFacts :=
  if 16000 < text.length then .error "INBOUND_EMAIL_UNSUPPORTED"
  else
    match (match? (normalized text.toList)).bind readFacts with
    | none => .error "INBOUND_EMAIL_UNSUPPORTED"
    | some facts => .ok facts

end Inbound

end SupplyResponse
