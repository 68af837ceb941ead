/-
Percent-encoding of texts (`urllib.parse.quote` and `unquote`).

* `quote` — every byte of the UTF-8 text but letters, digits and `_.-~` is
  written as `%XX`;
* `unquote` — the bytes are read back; an invalid UTF-8 text is an error;
* `unquoteReplace` — the bytes are read back; what is no UTF-8 is replaced;
* `unquote_quote` — reading back gives the text.
-/
import Mathlib.Data.List.Basic
import Mathlib.Tactic.Common

namespace Text

/-- The digit of a number below 16, in upper case. -/
def hexDigit (n : ℕ) : Char := Char.ofNat (if n < 10 then 0x30 + n else 0x37 + n)

def hexValue? (c : Char) : Option ℕ :=
  if '0' ≤ c ∧ c ≤ '9' then some (c.toNat - 0x30)
  else if 'A' ≤ c ∧ c ≤ 'F' then some (c.toNat - 0x37)
  else if 'a' ≤ c ∧ c ≤ 'f' then some (c.toNat - 0x57)
  else none

/-- Letters, digits and `_.-~`. -/
def isUnreserved (c : Char) : Bool :=
  ('A' ≤ c ∧ c ≤ 'Z') ∨ ('a' ≤ c ∧ c ≤ 'z') ∨ ('0' ≤ c ∧ c ≤ '9') ∨ c ∈ ['_', '.', '-', '~']

def quoteByte (b : UInt8) : List Char :=
  let c := Char.ofNat b.toNat
  if isUnreserved c then [c] else ['%', hexDigit (b.toNat / 16), hexDigit (b.toNat % 16)]

/-- The bytes of a text in UTF-8. -/
def utf8 (s : String) : List UInt8 := s.toUTF8.data.toList

/-- `quote(text, safe="")`. -/
def quote (s : String) : String := String.ofList ((utf8 s).flatMap quoteByte)

/-- The bytes that a percent-encoded text denotes. -/
def unquoteBytes : List Char → List UInt8
  | [] => []
  | [c] => String.utf8EncodeChar c
  | [c, d] => String.utf8EncodeChar c ++ String.utf8EncodeChar d
  | c :: a :: b :: rest =>
    if c = '%' then
      match hexValue? a, hexValue? b with
      | some x, some y => UInt8.ofNat (16 * x + y) :: unquoteBytes rest
      | _, _ => String.utf8EncodeChar c ++ unquoteBytes (a :: b :: rest)
    else String.utf8EncodeChar c ++ unquoteBytes (a :: b :: rest)

/-- `unquote(text, errors="strict")`. -/
def unquote (s : List Char) : Option String := String.fromUTF8? ⟨(unquoteBytes s).toArray⟩

/-! ### Reading with replacements -/

/-- How many bytes follow the first byte of a character, and what the next one lies between. -/
def followers (b : ℕ) : Option (ℕ × ℕ × ℕ) :=
  if 0xc2 ≤ b ∧ b ≤ 0xdf then some (1, 0x80, 0xbf)
  else if b = 0xe0 then some (2, 0xa0, 0xbf)
  else if b = 0xed then some (2, 0x80, 0x9f)
  else if 0xe1 ≤ b ∧ b ≤ 0xef then some (2, 0x80, 0xbf)
  else if b = 0xf0 then some (3, 0x90, 0xbf)
  else if 0xf1 ≤ b ∧ b ≤ 0xf3 then some (3, 0x80, 0xbf)
  else if b = 0xf4 then some (3, 0x80, 0x8f)
  else none

/-- The bits of the following bytes, and the rest; `none` where a byte is missing. -/
def readFollowers : ℕ → ℕ → ℕ → ℕ → List ℕ → Option ℕ × List ℕ
  | 0, _, _, bits, rest => (some bits, rest)
  | _ + 1, _, _, _, [] => (none, [])
  | n + 1, low, high, bits, b :: rest =>
    if low ≤ b ∧ b ≤ high then readFollowers n 0x80 0xbf (0x40 * bits + b % 0x40) rest
    else (none, b :: rest)

/-- `decode("utf-8", "replace")`: what is no character is read as `U+FFFD`. -/
def decodeReplace : ℕ → List ℕ → List Char
  | 0, _ | _, [] => []
  | fuel + 1, b :: rest =>
    if b < 0x80 then Char.ofNat b :: decodeReplace fuel rest
    else match followers b with
      | none => '\ufffd' :: decodeReplace fuel rest
      | some (count, low, high) =>
        let bits := if count = 1 then b % 0x20 else if count = 2 then b % 0x10 else b % 0x08
        let (code, rest) := readFollowers count low high bits rest
        (code.elim '\ufffd' Char.ofNat) :: decodeReplace fuel rest

/-- `unquote(text)`. -/
def unquoteReplace (s : List Char) : String :=
  let bytes := (unquoteBytes s).map UInt8.toNat
  String.ofList (decodeReplace bytes.length bytes)

/-! ### Reading back -/

theorem unquoteBytes_cons {c : Char} (hc : c ≠ '%') (rest : List Char) :
    unquoteBytes (c :: rest) = String.utf8EncodeChar c ++ unquoteBytes rest := by
  match rest with
  | [] => simp [unquoteBytes]
  | [d] => rfl
  | a :: b :: rest => rw [unquoteBytes, if_neg hc]

theorem hexValue?_hexDigit : ∀ n < 16, hexValue? (hexDigit n) = some n := by
  decide

/-- An unreserved character is one byte, and no percent sign. -/
theorem utf8EncodeChar_of_isUnreserved :
    ∀ n < 256, isUnreserved (Char.ofNat n) = true → Char.ofNat n ≠ '%' ∧
      String.utf8EncodeChar (Char.ofNat n) = [UInt8.ofNat n] := by
  decide +kernel

theorem unquoteBytes_quoteByte (b : UInt8) (rest : List Char) :
    unquoteBytes (quoteByte b ++ rest) = b :: unquoteBytes rest := by
  have hb : b.toNat < 256 := b.toNat_lt
  unfold quoteByte
  by_cases h : isUnreserved (Char.ofNat b.toNat) = true
  · obtain ⟨hne, hbytes⟩ := utf8EncodeChar_of_isUnreserved b.toNat hb h
    simp only [h, if_true, List.singleton_append]
    rw [unquoteBytes_cons hne, hbytes, UInt8.ofNat_toNat]
    rfl
  · have hhigh := hexValue?_hexDigit (b.toNat / 16) (by omega)
    have hlow := hexValue?_hexDigit (b.toNat % 16) (by omega)
    simp only [if_neg h, List.cons_append, List.nil_append]
    rw [unquoteBytes, if_pos rfl, hhigh, hlow]
    show UInt8.ofNat (16 * (b.toNat / 16) + b.toNat % 16) :: _ = _
    rw [Nat.div_add_mod, UInt8.ofNat_toNat]

theorem unquoteBytes_quote (bytes : List UInt8) :
    unquoteBytes (bytes.flatMap quoteByte) = bytes := by
  induction bytes with
  | nil => rfl
  | cons b rest ih => rw [List.flatMap_cons, unquoteBytes_quoteByte, ih]

theorem unquote_quote (s : String) : unquote (quote s).toList = some s := by
  unfold unquote quote
  rw [String.toList_ofList, unquoteBytes_quote]
  exact dif_pos s.isValidUTF8

/-! ### What is written -/

/-- The characters of a percent-encoded text. -/
def isQuoted (c : Char) : Bool := isUnreserved c || c == '%'

theorem isQuoted_hexDigit : ∀ n < 16, isQuoted (hexDigit n) = true := by
  decide +kernel

theorem isQuoted_of_mem_quote {s : String} {c : Char} (h : c ∈ (quote s).toList) :
    isQuoted c = true := by
  unfold quote at h
  rw [String.toList_ofList] at h
  obtain ⟨b, -, hc⟩ := List.mem_flatMap.mp h
  have hb : b.toNat < 256 := b.toNat_lt
  unfold quoteByte at hc
  by_cases hu : isUnreserved (Char.ofNat b.toNat) = true
  · simp only [hu, if_true, List.mem_singleton] at hc
    subst hc
    simp [isQuoted, hu]
  · simp only [if_neg hu, List.mem_cons, List.not_mem_nil, or_false] at hc
    rcases hc with rfl | rfl | rfl
    · rfl
    · exact isQuoted_hexDigit _ (by omega)
    · exact isQuoted_hexDigit _ (by omega)

/-- Characters of ASCII are one byte each. -/
theorem length_utf8 {s : String} (h : ∀ c ∈ s.toList, c.toNat < 128) :
    (utf8 s).length = s.length := by
  have hbytes : utf8 s = s.toList.flatMap String.utf8EncodeChar := by
    unfold utf8
    rw [show s.toUTF8 = s.toByteArray from rfl, ← String.utf8Encode_toList, List.utf8Encode]
    simp
  have hone : ∀ c ∈ s.toList, (String.utf8EncodeChar c).length = 1 := by
    intro c hc
    rw [String.length_utf8EncodeChar]
    refine Char.utf8Size_eq_one_iff.mpr ?_
    rw [UInt32.le_iff_toNat_le]
    exact Nat.le_of_lt_succ (h c hc)
  rw [hbytes, List.length_flatMap, ← String.length_toList, List.map_congr_left hone]
  simp

theorem length_quote_le (s : String) : (quote s).toList.length ≤ 3 * (utf8 s).length := by
  have hbyte : ∀ b, (quoteByte b).length ≤ 3 := by
    intro b
    unfold quoteByte
    dsimp only
    split <;> simp
  unfold quote
  rw [String.toList_ofList]
  induction utf8 s with
  | nil => simp
  | cons b bytes ih =>
    have hb := hbyte b
    rw [List.flatMap_cons, List.length_append, List.length_cons]
    omega

end Text
