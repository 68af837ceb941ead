/-
Values shared by all records of the domain.

* `Money` — decimal amounts, with the fixed two places of the JSON texts
  (`Money.serialized`);
* `Instant` — time-zone aware times, on one UTC axis;
* `strip`, `Nonblank` — Python's `str.strip` and the blank checks built on it;
* `Uuid.parse` — `uuid.UUID(text)`;
* `sortedSet` — `tuple(sorted(set(values)))`;
* `bind_eq_ok`, `mapM_eq_ok` — what a sequence of computations that may raise returns.
-/
import Mathlib.Data.Rat.Floor
import Mathlib.Data.List.Dedup
import Mathlib.Data.List.Forall2
import Mathlib.Data.List.Sort

namespace SupplyResponse

/-- A finite decimal amount. -/
abbrev Money := ℚ

/-- A time-zone aware time, in microseconds of UTC. -/
abbrev Instant := ℤ

/-- What a clock returns: an aware time, or `none` for one without a zone. -/
abbrev ClockReading := Option Instant

/-- `Decimal.quantize(0.01, ROUND_HALF_UP)`: halves go away from zero. -/
def Money.serialized (m : Money) : Money :=
  if 0 ≤ m then ⌊m * 100 + 1 / 2⌋ / 100 else -(⌊-m * 100 + 1 / 2⌋ / 100)

inductive RuntimeMode
  | live
  | fallback
  deriving DecidableEq, Repr

def RuntimeMode.value : RuntimeMode → String
  | live => "live"
  | fallback => "fallback"

inductive CasePurpose
  | automatedTest
  | rehearsal
  | showcase
  deriving DecidableEq, Repr

def CasePurpose.value : CasePurpose → String
  | automatedTest => "automated_test"
  | rehearsal => "rehearsal"
  | showcase => "showcase"

inductive ResponseOptionKind
  | noMitigation
  | expedite
  | transfer
  | resequence
  | alternateSource
  | combined
  deriving DecidableEq, Repr

def ResponseOptionKind.value : ResponseOptionKind → String
  | noMitigation => "no_mitigation"
  | expedite => "expedite"
  | transfer => "transfer"
  | resequence => "resequence"
  | alternateSource => "alternate_source"
  | combined => "combined"

/-! ### Text -/

/-- The characters `str.strip` removes. -/
def isSpace (c : Char) : Bool :=
  (0x09 ≤ c.toNat && c.toNat ≤ 0x0d) || (0x1c ≤ c.toNat && c.toNat ≤ 0x20) ||
    c.toNat ∈ [0x85, 0xa0, 0x1680, 0x2028, 0x2029, 0x202f, 0x205f, 0x3000] ||
    (0x2000 ≤ c.toNat && c.toNat ≤ 0x200a)

/-- `str.strip()`. -/
def strip (s : String) : String :=
  String.ofList (((s.toList.dropWhile isSpace).reverse.dropWhile isSpace).reverse)

/-- `value.strip()` is truthy. -/
def Nonblank (s : String) : Prop := s.toList.any (fun c => !isSpace c) = true

instance (s : String) : Decidable (Nonblank s) := inferInstanceAs (Decidable (_ = true))

/-- `value.strip() or None`. -/
def stripOrNone (s : String) : Option String := if Nonblank s then some (strip s) else none

/-- `fullmatch("[0-9a-f]{64}")`. -/
def IsSha256 (s : String) : Prop :=
  s.toList.length = 64 ∧ ∀ c ∈ s.toList, ('0' ≤ c ∧ c ≤ '9') ∨ ('a' ≤ c ∧ c ≤ 'f')

/-- `c` is one of `0-9a-f`. -/
def isLowerHexDigit (c : Char) : Bool := ('0' ≤ c ∧ c ≤ '9') ∨ ('a' ≤ c ∧ c ≤ 'f')

instance (s : String) : Decidable (IsSha256 s) :=
  -- over the digits of the text, not over all characters
  decidable_of_iff (s.toList.length = 64 ∧ s.toList.all isLowerHexDigit = true)
    (by simp only [IsSha256, isLowerHexDigit, List.all_eq_true, decide_eq_true_eq])

/-- The shape of a stored identifier: nonblank and at most 128 characters. -/
def IsIdentifier (s : String) : Prop := Nonblank s ∧ s.length ≤ 128

instance (s : String) : Decidable (IsIdentifier s) := inferInstanceAs (Decidable (_ ∧ _))

/-- `tuple(sorted(set(values)))`, ordered by the text of each value. -/
def sortedSet {α : Type} [DecidableEq α] (text : α → String) (values : List α) : List α :=
  values.dedup.insertionSort fun a b => text a ≤ text b

@[simp] theorem mem_sortedSet {α : Type} [DecidableEq α] {text : α → String} {values : List α}
    {a : α} : a ∈ sortedSet text values ↔ a ∈ values := by
  rw [sortedSet, List.mem_insertionSort, List.mem_dedup]

@[simp] theorem sortedSet_eq_nil {α : Type} [DecidableEq α] {text : α → String}
    {values : List α} : sortedSet text values = [] ↔ values = [] := by
  simp only [List.eq_nil_iff_forall_not_mem, mem_sortedSet]

/-! ### UUIDs -/

/-- A parsed UUID. -/
structure Uuid where
  int : Nat
  deriving DecidableEq, Repr

private def hexDigit? (c : Char) : Option Nat :=
  if '0' ≤ c ∧ c ≤ '9' then some (c.toNat - '0'.toNat)
  else if 'a' ≤ c ∧ c ≤ 'f' then some (c.toNat - 'a'.toNat + 10)
  else if 'A' ≤ c ∧ c ≤ 'F' then some (c.toNat - 'A'.toNat + 10)
  else none

/-- Delete every occurrence of `pat`, left to right. -/
def removeAll (pat : List Char) : Nat → List Char → List Char
  | 0, cs => cs
  | _ + 1, [] => []
  | fuel + 1, c :: cs =>
    if pat.isPrefixOf (c :: cs) ∧ pat ≠ [] then removeAll pat fuel ((c :: cs).drop pat.length)
    else c :: removeAll pat fuel cs

/-- `UUID(text)`: `urn:` and `uuid:` are deleted, braces stripped from the
ends and hyphens deleted; 32 hexadecimal digits must remain. -/
def Uuid.parse (text : String) : Option Uuid :=
  let cs := removeAll "urn:".toList text.length text.toList
  let cs := removeAll "uuid:".toList cs.length cs
  let brace := fun c => c = '{' ∨ c = '}'
  let cs := ((cs.dropWhile brace).reverse.dropWhile brace).reverse
  let cs := cs.filter (· ≠ '-')
  if cs.length = 32 then
    (cs.mapM hexDigit?).map fun ds => ⟨ds.foldl (fun n d => 16 * n + d) 0⟩
  else none

/-! ### Exceptions -/

theorem bind_eq_ok {ε α β : Type} {x : Except ε α} {f : α → Except ε β} {b : β} :
    (x >>= f) = .ok b ↔ ∃ a, x = .ok a ∧ f a = .ok b := by
  cases x with
  | ok a => exact ⟨fun h => ⟨a, rfl, h⟩, fun ⟨_, h, hf⟩ => Except.ok.inj h ▸ hf⟩
  | error e => exact ⟨fun h => (nomatch h), fun ⟨_, h, _⟩ => (nomatch h)⟩

theorem mapM_eq_ok {α β ε : Type} {f : α → Except ε β} {l : List α} {l' : List β}
    (h : l.mapM f = .ok l') : List.Forall₂ (fun a b => f a = .ok b) l l' := by
  induction l generalizing l' with
  | nil =>
    rw [List.mapM_nil] at h
    obtain rfl := Except.ok.inj h
    exact .nil
  | cons a l ih =>
    rw [List.mapM_cons] at h
    obtain ⟨b, hb, h⟩ := bind_eq_ok.mp h
    obtain ⟨bs, hbs, h⟩ := bind_eq_ok.mp h
    obtain rfl := Except.ok.inj h
    exact .cons hb (ih hbs)

end SupplyResponse
