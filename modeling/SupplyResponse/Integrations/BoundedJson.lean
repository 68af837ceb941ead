/-
JSON within limits (`bounded_json`).

* `boundedJson` — size, depth of the brackets, then `json.loads` with hooks that reject
  duplicate keys and constants;
* `JsonLimits` — the limits that a value and its text are to keep;
* `boundedJson_bounded_iff` — the depth is the nesting, the limits are kept and nothing
  within them is rejected, iff no number of a document within them overflows.
-/
import SupplyResponse.Text.JsonChecks
import SupplyResponse.Text.JsonNumbers

namespace SupplyResponse

open Text

inductive JsonFailure
  | malformed
  | sizeLimit
  | depthLimit
  | duplicateKeys
  | invalidNumber
  deriving DecidableEq, Repr

def JsonFailure.message : JsonFailure → String
  | malformed => "Work IQ response contains malformed JSON"
  | sizeLimit => "Work IQ response exceeds size limit"
  | depthLimit => "Work IQ response exceeds depth limit"
  | duplicateKeys => "Work IQ JSON contains duplicate keys"
  | invalidNumber => "Work IQ JSON contains an invalid number"

def maxResponseBytes : ℕ := 1024 * 1024

def maxJsonDepth : ℤ := 20

/-- `bytes` or a string, which may hold halves of surrogate pairs. -/
inductive JsonBody
  | bytes (encoded : List UInt8)
  | text (codes : Codes)

/-- The characters of a body that is valid UTF-8, or that can be written in it. -/
def JsonBody.chars : JsonBody → Option (List Char)
  | .bytes encoded => (String.fromUTF8? ⟨encoded.toArray⟩).map String.toList
  | .text codes => codes.mapM fun code =>
      if code.isValidChar then some (Char.ofNat code) else none

/-- `len(text.encode("utf-8"))`. -/
def utf8Length (text : List Char) : ℕ := (text.map Char.utf8Size).sum

/-- The scan raises at the first bracket beyond the limit. -/
def checkDepth : Scan → List Char → Except JsonFailure Unit
  | _, [] => .ok ()
  | s, c :: rest =>
    if maxJsonDepth < (s.step c).depth then .error .depthLimit else checkDepth (s.step c) rest

/-- Python converts integers of up to 4300 digits. -/
def checkDigits {ε : Type} (malformed : ε) (digits : List Char) : Except ε Unit :=
  if digits.length ≤ 4300 then .ok () else .error malformed

/-- `json.loads(text)`. -/
def plainChecks : ParseChecks Unit where
  malformed := ()
  pairs _ := .ok ()
  constant _ := .ok ()
  int := checkDigits ()

/-- `object_pairs_hook=_pairs, parse_constant=_reject_constant`. -/
def boundedChecks : ParseChecks JsonFailure where
  malformed := .malformed
  pairs fields := if (fields.map Prod.fst).Nodup then .ok () else .error .duplicateKeys
  constant _ := .error .invalidNumber
  int := checkDigits .malformed

def boundedText (text : List Char) : Except JsonFailure PyValue := do
  if maxResponseBytes < utf8Length text then .error .sizeLimit
  else do
    checkDepth .start text
    loads boundedChecks text

/-- `bounded_json`. -/
def boundedJson (body : JsonBody) : Except JsonFailure PyValue :=
  match body.chars with
  | none => .error .malformed
  | some text => boundedText text

/-! ### The depth of the brackets -/

theorem Scan.step_deepest (s : Scan) (c : Char) (hs : s.depth ≤ s.deepest) :
    (s.step c).depth ≤ (s.step c).deepest ∧
      (s.step c).deepest = max s.deepest (s.step c).depth := by
  unfold Scan.step
  split
  · split
    · exact ⟨hs, (max_eq_left hs).symm⟩
    · split
      · exact ⟨hs, (max_eq_left hs).symm⟩
      · split <;> exact ⟨hs, (max_eq_left hs).symm⟩
  · split
    · exact ⟨hs, (max_eq_left hs).symm⟩
    · split
      · exact ⟨le_max_right _ _, rfl⟩
      · split
        · dsimp only
          omega
        · exact ⟨hs, (max_eq_left hs).symm⟩

/-- The scan passes iff the deepest level is within the limit. -/
theorem checkDepth_eq {s : Scan} {text : List Char} (hs : s.depth ≤ s.deepest)
    (hlimit : s.deepest ≤ maxJsonDepth) : checkDepth s text =
      if (text.foldl Scan.step s).deepest ≤ maxJsonDepth then .ok () else .error .depthLimit := by
  induction text generalizing s with
  | nil => rw [checkDepth, List.foldl_nil, if_pos hlimit]
  | cons c rest ih =>
    obtain ⟨hseen, hdeepest⟩ := Scan.step_deepest s c hs
    have hmono : ∀ (text : List Char) (s : Scan), s.depth ≤ s.deepest →
        s.deepest ≤ (text.foldl Scan.step s).deepest := by
      intro text
      induction text with
      | nil => exact fun s _ => le_refl _
      | cons c text ih =>
        intro s hs
        obtain ⟨hseen, hdeepest⟩ := Scan.step_deepest s c hs
        exact (hdeepest ▸ le_max_left _ _).trans (ih (s.step c) hseen)
    rw [checkDepth, List.foldl_cons]
    split
    · rename_i hover
      have hover' := hmono rest (s.step c) hseen
      rw [if_neg]
      omega
    · exact ih hseen (by omega)

/-! ### Limits -/

/-- The limits on a text and its value; `no constants` are `NaN` and the infinities. -/
structure JsonLimits (text : List Char) (value : PyValue) : Prop where
  size : utf8Length text ≤ maxResponseBytes
  nesting : value.nesting ≤ 20
  keys : ∀ fields, PyValue.Within (.dict fields) value → (fields.map Prod.fst).Nodup
  constants : ∀ name, ¬PyValue.Within (.constant name) value

theorem boundedChecks_passes_iff {value : PyValue} : Passes boundedChecks value ↔
    (∀ fields, PyValue.Within (.dict fields) value → (fields.map Prod.fst).Nodup) ∧
      ∀ name, ¬PyValue.Within (.constant name) value := by
  constructor
  · intro h
    refine ⟨fun fields hwithin => ?_, fun name hwithin => ?_⟩
    · have hpairs := h.pairs fields hwithin
      unfold boundedChecks at hpairs
      dsimp only at hpairs
      split at hpairs
      · assumption
      · cases hpairs
    · exact nomatch h.constant name hwithin
  · rintro ⟨hkeys, hconstants⟩
    exact ⟨fun fields hwithin => if_pos (hkeys fields hwithin),
      fun name hwithin => absurd hwithin (hconstants name)⟩

theorem plainChecks_intsFollow : IntsFollow False plainChecks boundedChecks := by
  intro digits hdigits
  refine .inl ?_
  unfold plainChecks checkDigits at hdigits
  dsimp only at hdigits
  split at hdigits
  · rename_i hlength
    exact if_pos hlength
  · cases hdigits

theorem noChecks_intsFollow : IntsFollow True noChecks boundedChecks := by
  intro digits _
  unfold boundedChecks checkDigits
  dsimp only
  split
  · exact .inl rfl
  · exact .inr ⟨trivial, rfl⟩

theorem boundedChecks_intsFollow : IntsFollow False boundedChecks plainChecks := by
  intro digits hdigits
  refine .inl ?_
  unfold boundedChecks checkDigits at hdigits
  dsimp only at hdigits
  split at hdigits
  · rename_i hlength
    exact if_pos hlength
  · cases hdigits

/-- The depth that the scan counts is the nesting of the value. -/
theorem depth_eq_nesting {ε : Type} {checks : ParseChecks ε} {text : List Char} {value : PyValue}
    (h : loads checks text = .ok value) :
    (text.foldl Scan.step .start).deepest = value.nesting := by
  rw [(loads_runs h).eq_foldl]

/-- What is accepted: a text that `json.loads` takes, within the limits. -/
theorem boundedText_eq_ok {text : List Char} {value : PyValue} :
    boundedText text = .ok value ↔ loads plainChecks text = .ok value ∧ JsonLimits text value := by
  unfold boundedText
  rw [checkDepth_eq (le_refl _) (by decide)]
  constructor
  · intro h
    split at h
    · cases h
    · rename_i hsize
      obtain ⟨_, hdepth, h⟩ := except_bind_eq_ok.mp h
      obtain ⟨hvalue, hpasses⟩ := loads_sound h
      obtain ⟨hkeys, hconstants⟩ := boundedChecks_passes_iff.mp hpasses
      rw [depth_eq_nesting h] at hdepth
      have hnesting : (value.nesting : ℤ) ≤ maxJsonDepth := by
        by_contra hover
        rw [if_neg hover] at hdepth
        cases hdepth
      have hplain : Passes plainChecks value := ⟨fun _ _ => rfl, fun _ _ => rfl⟩
      refine ⟨(loads_follows boundedChecks_intsFollow h hplain).eq_ok, ?_, ?_, hkeys, hconstants⟩
      · exact not_lt.mp hsize
      · unfold maxJsonDepth at hnesting
        omega
  · rintro ⟨hvalue, hlimits⟩
    have hdepth : (text.foldl Scan.step .start).deepest ≤ maxJsonDepth := by
      rw [depth_eq_nesting hvalue]
      have hnesting := hlimits.nesting
      unfold maxJsonDepth
      omega
    rw [if_neg (not_lt.mpr hlimits.size), if_pos hdepth]
    exact (loads_follows plainChecks_intsFollow hvalue
      (boundedChecks_passes_iff.mpr ⟨hlimits.keys, hlimits.constants⟩)).eq_ok

/-- A document within the limits is accepted, or malformed for the length of an integer. -/
theorem boundedText_of_limits {text : List Char} {value : PyValue}
    (h : loads noChecks text = .ok value) (hlimits : JsonLimits text value) :
    boundedText text = .ok value ∨ boundedText text = .error .malformed := by
  have hdepth : (text.foldl Scan.step .start).deepest ≤ maxJsonDepth := by
    rw [depth_eq_nesting h]
    have hnesting := hlimits.nesting
    unfold maxJsonDepth
    omega
  unfold boundedText
  rw [checkDepth_eq (le_refl _) (by decide), if_neg (not_lt.mpr hlimits.size), if_pos hdepth]
  have hfollows := loads_follows noChecks_intsFollow h
    (boundedChecks_passes_iff.mpr ⟨hlimits.keys, hlimits.constants⟩)
  rcases hfollows with hok | ⟨-, herror⟩
  · exact .inl hok
  · exact .inr herror

/-! ### Exact limits -/

/-- The scan counts the nesting of every document; what is accepted is within the limits
and finite; and no document within them is rejected for them. -/
structure ExactlyBounded (body : JsonBody) (text : List Char) : Prop where
  depth : ∀ value, loads noChecks text = .ok value →
    (text.foldl Scan.step .start).deepest = value.nesting
  accepted : ∀ value, boundedJson body = .ok value → JsonLimits text value ∧ FiniteValue value
  complete : ∀ value, loads noChecks text = .ok value → JsonLimits text value → FiniteValue value →
    boundedJson body = .ok value ∨ boundedJson body = .error .malformed

/-- The text is a document within the limits; `json.loads` takes it. -/
def IsWithinLimits (text : List Char) : Prop :=
  ∃ value, loads plainChecks text = .ok value ∧ JsonLimits text value

/-- The limits are exact iff no number of a text within them overflows. -/
theorem boundedJson_bounded_iff (body : JsonBody) (text : List Char)
    (h : body.chars = some text) : ExactlyBounded body text ↔
      (IsWithinLimits text → ∀ literal ∈ numberLiterals text, literal.Fits) := by
  have hbody : boundedJson body = boundedText text := by
    unfold boundedJson
    rw [h]
  constructor
  · rintro hexact ⟨value, hvalue, hlimits⟩
    have haccepted := hbody.trans (boundedText_eq_ok.mpr ⟨hvalue, hlimits⟩)
    exact (loads_finite_iff hvalue).mp (hexact.accepted value haccepted).2
  · intro hfits
    refine ⟨fun value hvalue => depth_eq_nesting hvalue, fun value hvalue => ?_,
      fun value hvalue hlimits _ => ?_⟩
    · rw [hbody] at hvalue
      obtain ⟨hvalue, hlimits⟩ := boundedText_eq_ok.mp hvalue
      exact ⟨hlimits, (loads_finite_iff hvalue).mpr (hfits ⟨value, hvalue, hlimits⟩)⟩
    · rw [hbody]
      exact boundedText_of_limits hvalue hlimits

/-- A document with quotes, escapes and brackets in its strings. -/
def sampleNestedText : List Char :=
  "\x7b\"a[\\\"\x7b\": [1e3, \x7b\"b\\\\\": [-25e-1, 7]\x7d], \"c\": \"]\x7d\"\x7d".toList

def sampleNested : JsonBody := .text (sampleNestedText.map Char.toNat)

/-- The document is accepted at the depth of its nesting, and all limits are exact for it. -/
theorem boundedJson_bounded_iff_sample :
    ExactlyBounded sampleNested sampleNestedText ∧
      (boundedJson sampleNested).toOption.map PyValue.nesting = some 4 ∧
      (numberLiterals sampleNestedText).length = 3 :=
  ⟨(boundedJson_bounded_iff sampleNested sampleNestedText (by decide +kernel)).mpr
    fun _ => by decide +kernel, by decide +kernel, by decide +kernel⟩

/-- `[1e999]`. -/
def sampleOverflowText : List Char := "[1e999]".toList

def sampleOverflow : JsonBody := .text (sampleOverflowText.map Char.toNat)

/-- A literal beyond the doubles is accepted as an infinity. -/
theorem overflow_accepted : ¬ExactlyBounded sampleOverflow sampleOverflowText := by
  intro hexact
  have hchars : sampleOverflow.chars = some sampleOverflowText := by decide +kernel
  have haccepted : (boundedJson sampleOverflow).toOption.isSome = true := by decide +kernel
  have hover : ¬∀ literal ∈ numberLiterals sampleOverflowText, literal.Fits := by decide +kernel
  obtain ⟨value, hvalue⟩ := Option.isSome_iff_exists.mp haccepted
  have hok : boundedJson sampleOverflow = .ok value := by
    cases hjson : boundedJson sampleOverflow with
    | error failure =>
      rw [hjson] at hvalue
      cases hvalue
    | ok accepted =>
      rw [hjson] at hvalue
      exact congrArg Except.ok (Option.some.inj hvalue)
  have htext : boundedText sampleOverflowText = .ok value := by
    unfold boundedJson at hok
    rw [hchars] at hok
    exact hok
  obtain ⟨hvalue, -⟩ := boundedText_eq_ok.mp htext
  exact hover ((loads_finite_iff hvalue).mp (hexact.accepted value hok).2)

end SupplyResponse
