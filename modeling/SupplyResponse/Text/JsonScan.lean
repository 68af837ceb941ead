/-
Scanning the brackets of a JSON text.

* `Scan` — depth, quotes and escapes, character by character, with the deepest level;
* `Scan.Runs` — a run over characters that a JSON text may have where they stand;
* `Spans` — what is read off a text takes the scan to a nesting, and back;
* `parseValue_spans`, `loads_runs` — the scan over a JSON text counts the nesting of
  its value.
-/
import Mathlib.Algebra.Order.Group.Int
import Mathlib.Data.List.TakeWhile
import SupplyResponse.Text.JsonText

namespace Text

/-- The state of a scan, and the deepest level it has seen. -/
structure Scan where
  depth : ℤ
  deepest : ℤ
  quoted : Bool
  escaped : Bool
  deriving DecidableEq

namespace Scan

def start : Scan := ⟨0, 0, false, false⟩

def step (s : Scan) (c : Char) : Scan :=
  if s.quoted then
    if s.escaped then { s with escaped := false }
    else if c = '\\' then { s with escaped := true }
    else if c = '"' then { s with quoted := false }
    else s
  else if c = '"' then { s with quoted := true }
  else if c ∈ ['[', '{'] then
    { s with depth := s.depth + 1, deepest := max s.deepest (s.depth + 1) }
  else if c ∈ [']', '}'] then { s with depth := s.depth - 1 }
  else s

/-- In a string there are no control characters, elsewhere only ASCII and blanks. -/
def Allows (s : Scan) (c : Char) : Prop :=
  if s.quoted then 0x20 ≤ c.toNat else c.toNat < 0x80 ∧ (0x20 ≤ c.toNat ∨ isJsonSpace c = true)

inductive Runs : Scan → List Char → Scan → Prop
  | nil (s : Scan) : Runs s [] s
  | cons {s s' : Scan} {c : Char} {cs : List Char} :
      s.Allows c → Runs (s.step c) cs s' → Runs s (c :: cs) s'

variable {s s' s'' : Scan} {c : Char} {cs cs' : List Char}

theorem Runs.append (h : Runs s cs s') (h' : Runs s' cs' s'') : Runs s (cs ++ cs') s'' := by
  induction h with
  | nil s => exact h'
  | cons hc _ ih => exact .cons hc (ih h')

theorem Runs.eq_foldl (h : Runs s cs s') : cs.foldl step s = s' := by
  induction h with
  | nil s => rfl
  | cons _ _ ih => exact ih

/-- A run passes through the state before each character. -/
theorem Runs.split (h : Runs s (cs ++ cs') s'') :
    Runs s cs (cs.foldl step s) ∧ Runs (cs.foldl step s) cs' s'' := by
  induction cs generalizing s with
  | nil => exact ⟨.nil s, h⟩
  | cons c cs ih =>
    cases h with
    | cons hc hrest =>
      obtain ⟨hleft, hright⟩ := ih hrest
      exact ⟨.cons hc hleft, hright⟩

theorem with_quoted {b : Bool} (h : s.quoted = b) : { s with quoted := b } = s := by
  rw [← h]

/-- Outside of strings, at a depth that has been seen. -/
structure Ready (s : Scan) : Prop where
  quoted : s.quoted = false
  escaped : s.escaped = false
  seen : s.depth ≤ s.deepest

/-- The scan after a nesting of some levels. -/
def deepen (s : Scan) (n : ℕ) : Scan := { s with deepest := max s.deepest (s.depth + n) }

theorem Ready.deepen (h : s.Ready) (n : ℕ) : (s.deepen n).Ready :=
  ⟨h.quoted, h.escaped, h.seen.trans (le_max_left _ _)⟩

theorem Ready.deepen_zero (h : s.Ready) : s.deepen 0 = s := by
  have hmax : max s.deepest (s.depth + (0 : ℕ)) = s.deepest := by
    have := h.seen
    omega
  unfold Scan.deepen
  rw [hmax]

theorem deepen_deepen (m n : ℕ) : (s.deepen m).deepen n = s.deepen (max m n) := by
  have hmax : max (max s.deepest (s.depth + m)) (s.depth + n) =
      max s.deepest (s.depth + (max m n : ℕ)) := by omega
  show { s with deepest := max (max s.deepest (s.depth + m)) (s.depth + n) } = _
  rw [hmax]
  rfl

end Scan

open Scan

variable {cs rest rest' : List Char} {n : ℕ}

/-! ### What is read off a text -/

/-- A text goes on with `rest` behind characters that nest to `n` levels. -/
def Spans (cs rest : List Char) (n : ℕ) : Prop :=
  ∃ consumed, cs = consumed ++ rest ∧ ∀ s, s.Ready → Runs s consumed (s.deepen n)

theorem Spans.trans {m : ℕ} (h : Spans cs rest m) (h' : Spans rest rest' n) :
    Spans cs rest' (max m n) := by
  obtain ⟨consumed, rfl, hruns⟩ := h
  obtain ⟨consumed', rfl, hruns'⟩ := h'
  refine ⟨consumed ++ consumed', (List.append_assoc ..).symm, fun s hs => ?_⟩
  rw [← deepen_deepen]
  exact (hruns s hs).append (hruns' _ (hs.deepen m))

theorem Spans.refl (cs : List Char) : Spans cs cs 0 :=
  ⟨[], rfl, fun s hs => by
    rw [hs.deepen_zero]
    exact .nil s⟩

/-- Behind characters without nesting. -/
theorem Spans.after (h : Spans cs rest 0) (h' : Spans rest rest' n) : Spans cs rest' n := by
  have htrans := h.trans h'
  rwa [Nat.zero_max] at htrans

theorem Spans.before (h : Spans cs rest n) (h' : Spans rest rest' 0) : Spans cs rest' n := by
  have htrans := h.trans h'
  rwa [Nat.max_zero] at htrans

/-- A character that means nothing to the scan. -/
structure IsPlain (c : Char) : Prop where
  ascii : c.toNat < 0x80
  visible : 0x20 ≤ c.toNat ∨ isJsonSpace c = true
  free : c ∉ ['"', '[', '{', ']', '}']

theorem IsPlain.step {s : Scan} {c : Char} (h : IsPlain c) (hs : s.quoted = false) :
    s.step c = s := by
  have hfree := h.free
  simp only [List.mem_cons, List.not_mem_nil, or_false, not_or] at hfree
  unfold Scan.step
  simp [hs, hfree]

theorem Spans.plain {consumed : List Char} (h : ∀ c ∈ consumed, IsPlain c) :
    Spans (consumed ++ rest) rest 0 := by
  refine ⟨consumed, rfl, fun s hs => ?_⟩
  rw [hs.deepen_zero]
  induction consumed with
  | nil => exact .nil s
  | cons c consumed ih =>
    have hc := h c (List.mem_cons_self ..)
    refine .cons ?_ ?_
    · unfold Allows
      rw [hs.quoted]
      exact ⟨hc.ascii, hc.visible⟩
    · rw [hc.step hs.quoted]
      exact ih fun d hd => h d (List.mem_cons_of_mem _ hd)

theorem Spans.cons_plain {c : Char} (h : IsPlain c) : Spans (c :: rest) rest 0 :=
  @Spans.plain rest [c] fun _ hd => List.mem_singleton.mp hd ▸ h

theorem Spans.takeWhile {p : Char → Bool} (h : ∀ c, p c = true → IsPlain c) (cs : List Char) :
    Spans cs (cs.dropWhile p) 0 := by
  have hplain := @Spans.plain (cs.dropWhile p) (cs.takeWhile p) fun c hc =>
    h c (List.mem_takeWhile_imp hc)
  rwa [List.takeWhile_append_dropWhile] at hplain

/-- A nesting in brackets is one level deeper. -/
theorem Spans.enclose {opening close : Char} (hopening : opening ∈ ['[', '{'])
    (hclose : close ∈ [']', '}']) (h : Spans cs (close :: rest) n) :
    Spans (opening :: cs) rest (n + 1) := by
  obtain ⟨consumed, rfl, hruns⟩ := h
  refine ⟨opening :: (consumed ++ [close]), by simp, fun s hs => ?_⟩
  have hallows : ∀ c ∈ ['[', '{', ']', '}'], ∀ s : Scan, s.quoted = false → s.Allows c := by
    intro c hc s hs
    unfold Allows
    rw [hs]
    simp only [List.mem_cons, List.not_mem_nil, or_false] at hc
    rcases hc with rfl | rfl | rfl | rfl <;> exact ⟨by decide, .inl (by decide)⟩
  have hopen : s.step opening =
      { s with depth := s.depth + 1, deepest := max s.deepest (s.depth + 1) } := by
    unfold Scan.step
    have hquote : opening ≠ '"' := by
      rintro rfl
      exact absurd hopening (by decide)
    simp only [hs.quoted, if_neg hquote, if_pos hopening, Bool.false_eq_true, if_false]
  refine .cons (hallows _ (List.mem_append_left [']', '}'] hopening) s hs.quoted) ?_
  rw [hopen]
  have hready : Ready { s with depth := s.depth + 1, deepest := max s.deepest (s.depth + 1) } :=
    ⟨hs.quoted, hs.escaped, le_max_right _ _⟩
  refine (hruns _ hready).append (.cons (hallows _ ?_ _ hs.quoted) ?_)
  · exact List.mem_append_right ['[', '{'] hclose
  · have hend : (Scan.deepen
        { s with depth := s.depth + 1, deepest := max s.deepest (s.depth + 1) } n).step close =
        s.deepen (n + 1) := by
      unfold Scan.step Scan.deepen
      have hquote : close ≠ '"' := by
        rintro rfl
        exact absurd hclose (by decide)
      have hnot : close ∉ ['[', '{'] := by
        intro hmem
        simp only [List.mem_cons, List.not_mem_nil, or_false] at hclose hmem
        rcases hclose with rfl | rfl <;> exact absurd hmem (by decide)
      have hmax : max (max s.deepest (s.depth + 1)) (s.depth + 1 + n) =
          max s.deepest (s.depth + (n + 1 : ℕ)) := by
        push_cast
        omega
      simp only [hs.quoted, if_neg hquote, if_neg hnot, if_pos hclose, Bool.false_eq_true,
        if_false, hmax, add_sub_cancel_right]
    rw [hend]
    exact .nil _

/-! ### Strings -/

/-- A character inside a string that is no end and no escape. -/
structure IsInner (c : Char) : Prop where
  visible : 0x20 ≤ c.toNat
  quote : c ≠ '"'
  backslash : c ≠ '\\'

/-- Characters are read inside a string, which they end if `ended`. -/
def InString (cs rest : List Char) (ended : Bool) : Prop :=
  ∃ consumed, cs = consumed ++ rest ∧ ∀ s : Scan, s.quoted = true → s.escaped = false →
    Runs s consumed { s with quoted := !ended }

theorem InString.trans {ended : Bool} (h : InString cs rest false)
    (h' : InString rest rest' ended) : InString cs rest' ended := by
  obtain ⟨consumed, rfl, hruns⟩ := h
  obtain ⟨consumed', rfl, hruns'⟩ := h'
  refine ⟨consumed ++ consumed', (List.append_assoc ..).symm, fun s hquoted hescaped => ?_⟩
  exact (hruns s hquoted hescaped).append (hruns' _ rfl hescaped)

theorem allows_quoted {s : Scan} {c : Char} (hs : s.quoted = true) (hc : 0x20 ≤ c.toNat) :
    s.Allows c := by
  unfold Allows
  rw [hs]
  exact hc

theorem InString.inner {consumed : List Char} (h : ∀ c ∈ consumed, IsInner c) :
    InString (consumed ++ rest) rest false := by
  refine ⟨consumed, rfl, fun s hquoted hescaped => ?_⟩
  have hsame : { s with quoted := !false } = s := with_quoted hquoted
  rw [hsame]
  induction consumed with
  | nil => exact .nil s
  | cons c consumed ih =>
    have hc := h c (List.mem_cons_self ..)
    have hstep : s.step c = s := by
      unfold Scan.step
      simp [hquoted, hescaped, hc.quote, hc.backslash]
    refine .cons (allows_quoted hquoted hc.visible) ?_
    rw [hstep]
    exact ih fun d hd => h d (List.mem_cons_of_mem _ hd)

/-- A backslash takes the next character with it. -/
theorem InString.escape {c : Char} (hc : 0x20 ≤ c.toNat) :
    InString ('\\' :: c :: rest) rest false := by
  refine ⟨['\\', c], rfl, fun s hquoted hescaped => ?_⟩
  have hsame : { s with quoted := !false } = s := with_quoted hquoted
  have hfirst : s.step '\\' = { s with escaped := true } := by
    unfold Scan.step
    simp [hquoted, hescaped]
  have hsecond : Scan.step { s with escaped := true } c = s := by
    unfold Scan.step
    simp only [hquoted, if_true]
    rw [← hescaped]
    rw [← hquoted]
  rw [hsame]
  refine .cons (allows_quoted hquoted (by decide)) ?_
  rw [hfirst]
  refine .cons (allows_quoted hquoted hc) ?_
  rw [hsecond]
  exact .nil s

theorem isInner_of_hexValue? {c : Char} {n : ℕ} (h : hexValue? c = some n) : IsInner c := by
  have hranges : ('0' ≤ c ∧ c ≤ '9') ∨ ('A' ≤ c ∧ c ≤ 'F') ∨ ('a' ≤ c ∧ c ≤ 'f') := by
    unfold hexValue? at h
    split at h
    · rename_i hc
      exact .inl hc
    · split at h
      · rename_i hc
        exact .inr (.inl hc)
      · split at h
        · rename_i hc
          exact .inr (.inr hc)
        · cases h
  have hnat : 0x30 ≤ c.toNat ∧ c.toNat ≠ 0x5c := by
    simp only [Char.le_def, UInt32.le_iff_toNat_le] at hranges
    have heq : c.toNat = c.val.toNat := rfl
    have h0 : '0'.val.toNat = 0x30 := rfl
    have h9 : '9'.val.toNat = 0x39 := rfl
    have hA : 'A'.val.toNat = 0x41 := rfl
    have hF : 'F'.val.toNat = 0x46 := rfl
    have ha : 'a'.val.toNat = 0x61 := rfl
    have hf : 'f'.val.toNat = 0x66 := rfl
    omega
  refine ⟨by omega, ?_, ?_⟩
  · rintro rfl
    exact absurd hnat.1 (by decide)
  · rintro rfl
    exact hnat.2 rfl

theorem hexQuad_inString {quad : ℕ × List Char} (h : hexQuad cs = some quad) :
    InString cs quad.2 false := by
  unfold hexQuad at h
  split at h
  · rename_i a b c d rest
    simp only [Option.bind_eq_bind, Option.bind_eq_some_iff, Option.pure_def,
      Option.some.injEq] at h
    obtain ⟨_, ha, _, hb, _, hc, _, hd, rfl⟩ := h
    refine @InString.inner rest [a, b, c, d] fun x hx => ?_
    simp only [List.mem_cons, List.not_mem_nil, or_false] at hx
    rcases hx with rfl | rfl | rfl | rfl
    · exact isInner_of_hexValue? ha
    · exact isInner_of_hexValue? hb
    · exact isInner_of_hexValue? hc
    · exact isInner_of_hexValue? hd
  · cases h

theorem InString.refl (cs : List Char) : InString cs cs false := @InString.inner cs [] nofun

theorem joinPair_inString {high : ℕ} {code : ℕ × List Char} (h : joinPair high cs = some code) :
    InString cs code.2 false := by
  unfold joinPair at h
  split at h
  · split at h
    · rename_i rest'
      obtain ⟨low, hlow, rfl⟩ := Option.map_eq_some_iff.mp h
      have hlow := (@InString.escape rest' 'u' (by decide)).trans (hexQuad_inString hlow)
      split
      · exact hlow
      · exact .refl _
    · rw [← Option.some.inj h]
      exact .refl _
  · rw [← Option.some.inj h]
    exact .refl _

theorem readStringChar_inString {read : Option ℕ × List Char}
    (h : readStringChar cs = some read) : InString cs read.2 read.1.isNone := by
  unfold readStringChar at h
  split at h
  · cases h
  · rename_i c rest
    split at h
    · rename_i hquote
      subst hquote
      obtain rfl := Option.some.inj h
      refine ⟨['"'], rfl, fun s hquoted hescaped => ?_⟩
      have hstep : s.step '"' = { s with quoted := false } := by
        unfold Scan.step
        simp [hquoted, hescaped]
      refine .cons (allows_quoted hquoted (by decide)) ?_
      rw [hstep]
      exact .nil _
    · split at h
      · rename_i hquote hbackslash
        subst hbackslash
        obtain ⟨code, hcode, rfl⟩ := Option.map_eq_some_iff.mp h
        unfold readEscapeCode at hcode
        split at hcode
        · cases hcode
        · rename_i e rest
          split at hcode
          · rename_i hu
            subst hu
            obtain ⟨quad, hquad, hjoin⟩ := Option.bind_eq_some_iff.mp hcode
            exact (InString.escape (by decide)).trans
              ((hexQuad_inString hquad).trans (joinPair_inString hjoin))
          · obtain ⟨char, hlookup, rfl⟩ := Option.map_eq_some_iff.mp hcode
            obtain ⟨before, after, hlist, -⟩ := List.lookup_eq_some_iff.mp hlookup
            have hmem : (e, char) ∈ escapes := by
              rw [hlist]
              exact List.mem_append_right _ (List.mem_cons_self ..)
            have hall : ∀ pair ∈ escapes, 0x20 ≤ pair.1.toNat := by decide
            exact .escape (hall _ hmem)
      · split at h
        · cases h
        · rename_i hquote hbackslash hvisible
          obtain rfl := Option.some.inj h
          refine @InString.inner rest [c] fun x hx => ?_
          rw [List.mem_singleton.mp hx]
          exact ⟨by omega, hquote, hbackslash⟩

theorem readStringChars_inString {fuel : ℕ} {string : Codes × List Char}
    (h : readStringChars fuel cs = some string) : InString cs string.2 true := by
  induction fuel generalizing cs string with
  | zero => cases h
  | succ fuel ih =>
    unfold readStringChars at h
    split at h
    · cases h
    · rename_i rest hread
      obtain rfl := Option.some.inj h
      exact readStringChar_inString hread
    · rename_i code rest hread
      obtain ⟨string, hstring, rfl⟩ := Option.map_eq_some_iff.mp h
      have hrest := ih hstring
      exact (readStringChar_inString hread).trans hrest

/-- A string stands between quotes. -/
theorem readString_spans {string : Codes × List Char} (h : readString cs = some string) :
    Spans ('"' :: cs) string.2 0 := by
  obtain ⟨consumed, hcs, hruns⟩ := readStringChars_inString h
  refine ⟨'"' :: consumed, by rw [hcs]; rfl, fun s hs => ?_⟩
  have hstep : s.step '"' = { s with quoted := true } := by
    unfold Scan.step
    simp [hs.quoted]
  have hend : { s with quoted := !true } = s := with_quoted hs.quoted
  rw [hs.deepen_zero]
  refine .cons ?_ ?_
  · unfold Allows
    rw [hs.quoted]
    exact ⟨by decide, .inl (by decide)⟩
  · rw [hstep]
    have hinner := hruns { s with quoted := true } rfl hs.escaped
    rwa [hend] at hinner

/-! ### Numbers and words -/

theorem isPlain_of_isDigit {c : Char} (h : isDigit c = true) : IsPlain c := by
  unfold isDigit at h
  rw [decide_eq_true_eq] at h
  have hnat : 0x30 ≤ c.toNat ∧ c.toNat ≤ 0x39 := h
  refine ⟨by omega, .inl (by omega), fun hmem => ?_⟩
  simp only [List.mem_cons, List.not_mem_nil, or_false] at hmem
  rcases hmem with rfl | rfl | rfl | rfl | rfl <;> exact absurd hnat (by decide)

theorem isPlain_of_mem {c : Char}
    (h : c ∈ "-+.eE,:nultrefasNIiy0 ".toList ++ ['\t', '\n', '\r']) : IsPlain c := by
  have hall : (("-+.eE,:nultrefasNIiy0 ".toList ++ ['\t', '\n', '\r']).all fun c =>
      decide (c.toNat < 0x80 ∧ (0x20 ≤ c.toNat ∨ isJsonSpace c = true) ∧
        c ∉ ['"', '[', '{', ']', '}'])) = true := by
    decide
  obtain ⟨hascii, hvisible, hfree⟩ := of_decide_eq_true (List.all_eq_true.mp hall c h)
  exact ⟨hascii, hvisible, hfree⟩

theorem skipSpace_spans (cs : List Char) : Spans cs (skipSpace cs) 0 := by
  refine Spans.takeWhile (fun c hc => isPlain_of_mem ?_) cs
  unfold isJsonSpace at hc
  rw [decide_eq_true_eq] at hc
  simp only [List.mem_cons, List.not_mem_nil, or_false] at hc
  rcases hc with rfl | rfl | rfl | rfl <;> decide

theorem readMinus_spans (cs : List Char) : Spans cs (readMinus cs).2 0 := by
  unfold readMinus
  split
  · exact .cons_plain (isPlain_of_mem (by decide))
  · exact .refl _

theorem readSign_spans (cs : List Char) : Spans cs (readSign cs).2 0 := by
  unfold readSign
  split
  · exact .cons_plain (isPlain_of_mem (by decide))
  · exact .cons_plain (isPlain_of_mem (by decide))
  · exact .refl _

theorem readDigits_spans {digits : List Char × List Char} (h : readDigits cs = some digits) :
    Spans cs digits.2 0 := by
  unfold readDigits at h
  split at h
  · cases h
  · rename_i c rest
    split at h
    · rename_i hzero
      subst hzero
      obtain rfl := Option.some.inj h
      exact .cons_plain (isPlain_of_mem (by decide))
    · split at h
      · rename_i hdigit
        obtain rfl := Option.some.inj h
        exact (Spans.cons_plain (isPlain_of_isDigit hdigit)).after
          (.takeWhile (fun _ => isPlain_of_isDigit) rest)
      · cases h

theorem readFraction_spans (cs : List Char) : Spans cs (readFraction cs).2 0 := by
  unfold readFraction
  split
  · rename_i rest
    split
    · exact .refl _
    · exact (Spans.cons_plain (isPlain_of_mem (by decide))).after
        (.takeWhile (fun _ => isPlain_of_isDigit) rest)
  · exact .refl _

theorem readExponent_spans (cs : List Char) : Spans cs (readExponent cs).2 0 := by
  unfold readExponent
  split
  · rename_i c rest
    split
    · rename_i he
      dsimp only
      split
      · exact .refl _
      · have hplain : IsPlain c := by
          refine isPlain_of_mem ?_
          simp only [List.mem_cons, List.not_mem_nil, or_false] at he
          rcases he with rfl | rfl <;> decide
        exact ((Spans.cons_plain hplain).after (readSign_spans rest)).after
          (.takeWhile (fun _ => isPlain_of_isDigit) _)
    · exact .refl _
  · exact .refl _

theorem readNumber_spans {number : NumberLiteral × List Char} (h : readNumber cs = some number) :
    Spans cs number.2 0 := by
  obtain ⟨digits, hdigits, rfl⟩ := Option.map_eq_some_iff.mp h
  have hinteger := (readMinus_spans cs).after (readDigits_spans hdigits)
  exact (hinteger.after (readFraction_spans _)).after (readExponent_spans _)

theorem readWord_spans {α : Type} {words : List (String × α)} {word : α × List Char}
    (hwords : (words.all fun entry => entry.1.toList.all fun c =>
      decide (c ∈ "-+.eE,:nultrefasNIiy0 ".toList ++ ['\t', '\n', '\r'])) = true)
    (h : readWord words cs = some word) : Spans cs word.2 0 := by
  obtain ⟨entry, hentry, h⟩ := List.exists_of_findSome?_eq_some h
  split at h
  · rename_i hprefix
    obtain ⟨rest, rfl⟩ := hprefix
    obtain rfl := Option.some.inj h
    rw [List.drop_left]
    have hchars := List.all_eq_true.mp (List.all_eq_true.mp hwords entry hentry)
    exact .plain fun c hc => isPlain_of_mem (of_decide_eq_true (hchars c hc))
  · cases h

/-! ### Values -/

theorem except_bind_eq_ok {ε α β : Type} {x : Except ε α} {f : α → Except ε β} {b : β} :
    (x >>= f) = .ok b ↔ ∃ a, x = .ok a ∧ f a = .ok b := by
  cases x with
  | ok a => exact ⟨fun h => ⟨a, rfl, h⟩, fun ⟨_, h, hf⟩ => Except.ok.inj h ▸ hf⟩
  | error e => exact ⟨fun h => (nomatch h), fun ⟨_, h, _⟩ => (nomatch h)⟩

theorem except_bind_congr {ε α β : Type} {x : Except ε α} {f g : α → Except ε β}
    (h : ∀ a, x = .ok a → f a = g a) : x >>= f = x >>= g := by
  cases x with
  | ok a => exact h a rfl
  | error e => rfl

section

variable {ε α : Type} {checks : ParseChecks ε} {depth : α → ℕ}

theorem lift_eq_ok {o : Option α} {a : α} : checks.lift o = .ok a ↔ o = some a := by
  cases o <;> simp [ParseChecks.lift]

theorem parseScalar_spans {read : PyValue × List Char} (h : parseScalar checks cs = .ok read) :
    Spans cs read.2 0 ∧ read.1.nesting = 0 := by
  unfold parseScalar at h
  split at h
  · rename_i word hword
    obtain rfl := Except.ok.inj h
    refine ⟨readWord_spans (by decide) hword, ?_⟩
    obtain ⟨entry, hentry, hfound⟩ := List.exists_of_findSome?_eq_some hword
    have hall : ∀ entry ∈ jsonWords, entry.2.nesting = 0 := by decide
    split at hfound
    · rw [← Option.some.inj hfound]
      exact hall entry hentry
    · cases hfound
  · split at h
    · rename_i word hword
      obtain ⟨_, -, h⟩ := except_bind_eq_ok.mp h
      have hspans := readWord_spans (by decide) hword
      obtain rfl := Except.ok.inj h
      exact ⟨hspans, rfl⟩
    · unfold parseNumber at h
      obtain ⟨number, hnumber, h⟩ := except_bind_eq_ok.mp h
      have hspans := readNumber_spans (lift_eq_ok.mp hnumber)
      split at h
      · obtain ⟨_, -, h⟩ := except_bind_eq_ok.mp h
        obtain rfl := Except.ok.inj h
        exact ⟨hspans, rfl⟩
      · obtain rfl := Except.ok.inj h
        exact ⟨hspans, rfl⟩

/-- The deepest of some elements. -/
def deepestOf (depth : α → ℕ) (elements : List α) : ℕ :=
  elements.foldr (fun a n => max (depth a) n) 0

theorem parseElements_spans {close : Char} {element : List Char → Except ε (α × List Char)}
    (helement : ∀ {cs read}, element cs = .ok read → Spans cs read.2 (depth read.1))
    {fuel : ℕ} {read : List α × List Char}
    (h : parseElements checks close element fuel cs = .ok read) :
    Spans cs (close :: read.2) (deepestOf depth read.1) := by
  induction fuel generalizing cs read with
  | zero => cases h
  | succ fuel ih =>
    unfold parseElements at h
    obtain ⟨first, hfirst, h⟩ := except_bind_eq_ok.mp h
    have hspace := (helement hfirst).before (skipSpace_spans first.2)
    split at h
    · cases h
    · rename_i c rest hrest
      rw [hrest] at hspace
      split at h
      · rename_i hclose
        obtain rfl := Except.ok.inj h
        subst hclose
        show Spans cs (c :: rest) (max (depth first.1) 0)
        rwa [Nat.max_zero]
      · split at h
        · rename_i hcomma
          obtain ⟨others, hothers, h⟩ := except_bind_eq_ok.mp h
          obtain rfl := Except.ok.inj h
          subst hcomma
          have hcomma : IsPlain ',' := isPlain_of_mem (by decide)
          have hplain := (Spans.cons_plain hcomma).after (skipSpace_spans rest)
          exact (hspace.before hplain).trans (ih hothers)
        · cases h

theorem parseSequence_spans {close : Char} {element : List Char → Except ε (α × List Char)}
    (helement : ∀ {cs read}, element cs = .ok read → Spans cs read.2 (depth read.1))
    {read : List α × List Char} (h : parseSequence checks close element cs = .ok read) :
    Spans cs (close :: read.2) (deepestOf depth read.1) := by
  have hspace := skipSpace_spans cs
  unfold parseSequence at h
  split at h
  · cases h
  · rename_i c rest hrest
    rw [hrest] at hspace
    split at h
    · rename_i hclose
      subst hclose
      obtain rfl := Except.ok.inj h
      exact hspace
    · exact hspace.after (parseElements_spans helement h)

theorem parseField_spans {value : List Char → Except ε (α × List Char)}
    (hvalue : ∀ {cs read}, value cs = .ok read → Spans cs read.2 (depth read.1))
    {read : (Codes × α) × List Char} (h : parseField checks value cs = .ok read) :
    Spans cs read.2 (depth read.1.2) := by
  unfold parseField at h
  split at h
  · obtain ⟨key, hkey, h⟩ := except_bind_eq_ok.mp h
    have hspace := (readString_spans (lift_eq_ok.mp hkey)).after (skipSpace_spans key.2)
    split at h
    · rename_i rest hrest
      rw [hrest] at hspace
      obtain ⟨read, hread, h⟩ := except_bind_eq_ok.mp h
      obtain rfl := Except.ok.inj h
      have hcolon : IsPlain ':' := isPlain_of_mem (by decide)
      have hplain := (Spans.cons_plain hcolon).after (skipSpace_spans rest)
      exact (hspace.after hplain).after (hvalue hread)
    · cases h
  · cases h

theorem nestingItems_eq (items : List PyValue) :
    PyValue.nestingItems items = deepestOf PyValue.nesting items := by
  induction items with
  | nil => rfl
  | cons value items ih =>
    unfold PyValue.nestingItems deepestOf
    rw [ih]
    rfl

theorem nestingFields_eq (fields : List (Codes × PyValue)) :
    PyValue.nestingFields fields = deepestOf (fun field => field.2.nesting) fields := by
  induction fields with
  | nil => rfl
  | cons field fields ih =>
    unfold PyValue.nestingFields deepestOf
    rw [ih]
    rfl

/-- The scan over a value counts its nesting, and comes back. -/
theorem parseValue_spans {fuel : ℕ} {read : PyValue × List Char}
    (h : parseValue checks fuel cs = .ok read) : Spans cs read.2 read.1.nesting := by
  induction fuel generalizing cs read with
  | zero => cases h
  | succ fuel ih =>
    unfold parseValue at h
    split at h
    · cases h
    · cases h
    · rename_i c rest heq
      obtain rfl := Nat.succ.inj heq
      split at h
      · -- a string
        rename_i hquote
        subst hquote
        obtain ⟨string, hstring, h⟩ := except_bind_eq_ok.mp h
        obtain rfl := Except.ok.inj h
        exact readString_spans (lift_eq_ok.mp hstring)
      · split at h
        · -- an object
          rename_i hbrace
          subst hbrace
          obtain ⟨fields, hfields, h⟩ := except_bind_eq_ok.mp h
          obtain ⟨_, -, h⟩ := except_bind_eq_ok.mp h
          obtain rfl := Except.ok.inj h
          have hinner := @parseSequence_spans _ _ _ _ (fun field => field.2.nesting) _ _
            (fun hread => parseField_spans (fun hvalue => ih hvalue) hread) _ hfields
          rw [← nestingFields_eq] at hinner
          exact hinner.enclose (by decide) (by decide)
        · split at h
          · -- an array
            rename_i hbracket
            subst hbracket
            obtain ⟨items, hitems, h⟩ := except_bind_eq_ok.mp h
            obtain rfl := Except.ok.inj h
            have hinner := parseSequence_spans (fun hvalue => ih hvalue) hitems
            rw [← nestingItems_eq] at hinner
            exact hinner.enclose (by decide) (by decide)
          · obtain ⟨hspans, hnesting⟩ := parseScalar_spans h
            rw [hnesting]
            exact hspans

/-- The scan over a text counts the nesting of its value. -/
theorem loads_runs {text : List Char} {value : PyValue} (h : loads checks text = .ok value) :
    Runs start text { start with deepest := value.nesting } := by
  unfold loads at h
  split at h
  · cases h
  · obtain ⟨read, hread, h⟩ := except_bind_eq_ok.mp h
    split at h
    · rename_i hend
      obtain rfl := Except.ok.inj h
      have hspace := (parseValue_spans hread).before (skipSpace_spans read.2)
      rw [hend] at hspace
      obtain ⟨consumed, htext, hruns⟩ := (skipSpace_spans text).after hspace
      rw [List.append_nil] at htext
      have hrun := hruns start ⟨rfl, rfl, le_refl _⟩
      rw [← htext] at hrun
      have hdeepest : start.deepen read.1.nesting =
          { start with deepest := (read.1.nesting : ℤ) } := by
        have hmax : max (0 : ℤ) (0 + read.1.nesting) = read.1.nesting := by omega
        unfold Scan.deepen
        exact congrArg (fun d => (⟨0, d, false, false⟩ : Scan)) hmax
      rw [hdeepest] at hrun
      exact hrun
    · cases h

/-! ### Fuel -/

theorem Spans.length_le (h : Spans cs rest n) : rest.length ≤ cs.length := by
  obtain ⟨consumed, rfl, -⟩ := h
  rw [List.length_append]
  omega

theorem skipSpace_length_le (cs : List Char) : (skipSpace cs).length ≤ cs.length :=
  (skipSpace_spans cs).length_le

/-- Elements are read alike by parsers that agree on what is left of the text. -/
theorem parseElements_congr {close : Char} {element element' : List Char → Except ε (α × List Char)}
    {bound : ℕ} (hlength : ∀ {cs read}, element cs = .ok read → read.2.length ≤ cs.length)
    (hsame : ∀ cs, cs.length ≤ bound → element cs = element' cs) {fuel : ℕ}
    (hcs : cs.length ≤ bound) :
    parseElements checks close element fuel cs = parseElements checks close element' fuel cs := by
  induction fuel generalizing cs with
  | zero => rfl
  | succ fuel ih =>
    unfold parseElements
    rw [← hsame cs hcs]
    refine except_bind_congr fun first hfirst => ?_
    have hfirst := hlength hfirst
    have hspace := skipSpace_length_le first.2
    split
    · rfl
    · rename_i c rest hrest
      rw [hrest, List.length_cons] at hspace
      have hafter := skipSpace_length_le rest
      rw [ih (by omega)]

theorem parseSequence_congr {close : Char} {element element' : List Char → Except ε (α × List Char)}
    {bound : ℕ} (hlength : ∀ {cs read}, element cs = .ok read → read.2.length ≤ cs.length)
    (hsame : ∀ cs, cs.length ≤ bound → element cs = element' cs) (hcs : cs.length ≤ bound) :
    parseSequence checks close element cs = parseSequence checks close element' cs := by
  have hspace := skipSpace_length_le cs
  unfold parseSequence
  cases hrest : skipSpace cs with
  | nil => rfl
  | cons c rest =>
    rw [hrest] at hspace
    dsimp only
    rw [parseElements_congr hlength hsame (hspace.trans hcs)]

theorem readString_length_le {string : Codes × List Char} (h : readString cs = some string) :
    string.2.length ≤ cs.length := by
  obtain ⟨consumed, hcs, -⟩ := readStringChars_inString h
  rw [hcs, List.length_append]
  omega

theorem parseField_congr {value value' : List Char → Except ε (α × List Char)} {bound : ℕ}
    (hsame : ∀ cs, cs.length ≤ bound → value cs = value' cs) (hcs : cs.length ≤ bound) :
    parseField checks value cs = parseField checks value' cs := by
  unfold parseField
  split
  · rename_i rest
    rw [List.length_cons] at hcs
    refine except_bind_congr fun key hkey => ?_
    have hkey := readString_length_le (lift_eq_ok.mp hkey)
    have hspace := skipSpace_length_le key.2
    split
    · rename_i after hafter
      rw [hafter, List.length_cons] at hspace
      have hvalue := skipSpace_length_le after
      rw [hsame _ (by omega)]
    · rfl
  · rfl

/-- The fuel is enough: a text is longer than its nesting. -/
theorem parseValue_fuel {fuel fuel' : ℕ} (h : cs.length < fuel) (h' : cs.length < fuel') :
    parseValue checks fuel cs = parseValue checks fuel' cs := by
  induction fuel generalizing fuel' cs with
  | zero => omega
  | succ fuel ih =>
    cases fuel' with
    | zero => omega
    | succ fuel' =>
      cases cs with
      | nil => rfl
      | cons c rest =>
        rw [List.length_cons] at h h'
        have hsame : ∀ cs, cs.length ≤ rest.length →
            parseValue checks fuel cs = parseValue checks fuel' cs :=
          fun cs hcs => ih (by omega) (by omega)
        unfold parseValue
        rw [parseSequence_congr (fun hread => (parseField_spans
            (fun hvalue => parseValue_spans hvalue) hread).length_le)
            (fun cs hcs => parseField_congr hsame hcs) (le_refl _),
          parseSequence_congr (fun hread => (parseValue_spans hread).length_le) hsame (le_refl _)]

end

end Text
