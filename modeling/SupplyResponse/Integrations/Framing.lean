/-
The two framings of a Work IQ response (`_rpc_body`).

* `splitLines`, `splitEvents`, `addLine`, `rpcBody` — plain JSON and event streams;
* `Framing` — one event that carries a text in a single data line;
* `open_text_rejected` — a text that is cut inside a string is not accepted;
* `rpcBody_framing_iff` — an event is read like the text that it carries iff no
  character of it ends a line for Python alone.
-/
import SupplyResponse.Integrations.BoundedJson
import SupplyResponse.Domain.Common

namespace SupplyResponse

open Text

inductive RpcFailure
  | json (failure : JsonFailure)
  | unsupportedContentType
  | malformedStream
  | ambiguousResponses
  deriving DecidableEq, Repr

def RpcFailure.message : RpcFailure → String
  | json failure => failure.message
  | unsupportedContentType => "Work IQ response has unsupported content type"
  | malformedStream => "Work IQ event stream is malformed"
  | ambiguousResponses => "Work IQ event stream has ambiguous responses"

/-! ### Lines and events -/

/-- `text.replace("\r\n", "\n").replace("\r", "\n")`. -/
def unifyNewlines : List Char → List Char
  | [] => []
  | [c] => [if c = '\r' then '\n' else c]
  | c :: d :: rest =>
    if c = '\r' then
      if d = '\n' then '\n' :: unifyNewlines rest else '\n' :: unifyNewlines (d :: rest)
    else c :: unifyNewlines (d :: rest)

/-- `text.split("\n\n")`. -/
def splitEvents : List Char → List (List Char)
  | [] => [[]]
  | [c] => [[c]]
  | c :: d :: rest =>
    if c = '\n' ∧ d = '\n' then [] :: splitEvents rest
    else (splitEvents (d :: rest)).modifyHead (c :: ·)

/-- The ends of lines of `str.splitlines`, besides carriage returns. -/
def isLineBreak (c : Char) : Bool :=
  c.toNat ∈ [0x0a, 0x0b, 0x0c, 0x1c, 0x1d, 0x1e, 0x85, 0x2028, 0x2029]

/-- `text.splitlines()`. -/
def splitLines (text : List Char) : List (List Char) :=
  let pieces := (unifyNewlines text).splitOnP isLineBreak
  if pieces.getLast? = some [] then pieces.dropLast else pieces

/-- `value.removeprefix(" ")`. -/
def removeBlank : List Char → List Char
  | ' ' :: rest => rest
  | value => value

/-- `"\n".join(lines)`. -/
def joinLines : List (List Char) → List Char
  | [] => []
  | [line] => line
  | line :: next :: rest => line ++ '\n' :: joinLines (next :: rest)

/-- `line.startswith((":", "event:", "id:", "retry:"))`. -/
def IsField (line : List Char) : Prop :=
  ∃ start ∈ [":", "event:", "id:", "retry:"], start.toList <+: line

instance (line : List Char) : Decidable (IsField line) :=
  inferInstanceAs (Decidable (∃ start ∈ _, _))

def addLine (data : List (List Char)) (line : List Char) :
    Except RpcFailure (List (List Char)) :=
  if "data:".toList <+: line then .ok (data ++ [removeBlank (line.drop 5)])
  else if line = [] ∨ IsField line then .ok data
  else .error .malformedStream

def liftJson {α : Type} : Except JsonFailure α → Except RpcFailure α
  | .ok a => .ok a
  | .error e => .error (.json e)

/-- The message of one event, if it has data. -/
def eventMessage (event : List Char) : Except RpcFailure (Option PyValue) := do
  let data ← (splitLines event).foldlM addLine []
  if data = [] then pure none
  else do
    let message ← liftJson (boundedText (joinLines data))
    pure (some message)

/-- `content_type.split(";", 1)[0].strip().lower()`; the names that it is compared with
have only ASCII letters. -/
def mediaType (contentType : String) : String :=
  String.ofList ((strip (String.ofList (contentType.toList.takeWhile (· ≠ ';')))).toList.map
    Char.toLower)

/-- `_rpc_body`. -/
def rpcBody (body : List UInt8) (contentType : String) : Except RpcFailure PyValue :=
  if mediaType contentType = "application/json" then liftJson (boundedJson (.bytes body))
  else if mediaType contentType ≠ "text/event-stream" then .error .unsupportedContentType
  else
    match (JsonBody.bytes body).chars with
    | none => .error .malformedStream
    | some text => do
      let messages ← (splitEvents (unifyNewlines text)).mapM eventMessage
      match messages.filterMap id with
      | [message] => pure message
      | _ => .error .ambiguousResponses

/-! ### Framings -/

inductive LineEnding
  | lf
  | cr
  | crlf
  deriving DecidableEq, Repr

def LineEnding.chars : LineEnding → List Char
  | lf => ['\n']
  | cr => ['\r']
  | crlf => ['\r', '\n']

/-- No carriage returns and line feeds. -/
def SingleLine (line : List Char) : Prop := '\n' ∉ line ∧ '\r' ∉ line

/-- A comment, event, id or retry line, which hides no data line.  (Behind a line end of Python's
own, `data:` would be a second data line, and the event would not have a single one.) -/
structure FieldLine where
  line : List Char
  single : SingleLine line
  field : IsField line
  noData : ∀ piece ∈ line.splitOnP isLineBreak, ¬"data:".toList <+: piece

/-- An event with one data line. -/
structure Framing where
  before : List (FieldLine × LineEnding)
  blank : Bool
  ending : LineEnding
  after : List (FieldLine × LineEnding)
  last : LineEnding
  /-- The blank line is not read as one with the line end before it. -/
  separate : ((ending :: after.map Prod.snd).getLast? = some .cr) → last ≠ .lf

namespace Framing

variable (framing : Framing) (json : List Char)

/-- `data:` with the text, behind a blank or not. -/
def dataLine : List Char := "data:".toList ++ (if framing.blank then ' ' :: json else json)

def lines : List (List Char × LineEnding) :=
  framing.before.map (fun field => (field.1.line, field.2)) ++
    (framing.dataLine json, framing.ending) ::
      framing.after.map fun field => (field.1.line, field.2)

/-- The text of the event. -/
def text : List Char :=
  ((framing.lines json).flatMap fun line => line.1 ++ line.2.chars) ++ framing.last.chars

/-- The bytes of the event. -/
def body : List UInt8 := utf8 (String.ofList (framing.text json))

end Framing

/-- NEL, LS and PS may stand in a JSON string as they are, and end lines for Python. -/
def HasOwnLineBreak (json : List Char) : Prop :=
  ∃ c ∈ json, c.toNat ∈ [0x85, 0x2028, 0x2029]

/-- What follows a further line end in a field line is empty, or a field line again. -/
def FieldLine.Uncut (field : FieldLine) : Prop :=
  ∀ piece ∈ field.line.splitOnP isLineBreak, piece = [] ∨ IsField piece

/-! ### Texts cut inside a string -/

variable {ε : Type} {checks : ParseChecks ε} {json a b : List Char} {c : Char} {value : PyValue}

/-- Python's own line ends stand inside of strings. -/
theorem quoted_of_isLineBreak (h : loads checks (a ++ c :: b) = .ok value)
    (hbreak : isLineBreak c = true) (hc : c ≠ '\n') :
    (a.foldl Scan.step .start).quoted = true ∧ c.toNat ∈ [0x85, 0x2028, 0x2029] := by
  obtain ⟨-, hruns⟩ := (loads_runs h).split
  have hlow : c.toNat ≠ 0x0a := fun hnat => hc (Char.toNat_inj.mp hnat)
  unfold isLineBreak at hbreak
  rw [decide_eq_true_eq] at hbreak
  simp only [List.mem_cons, List.not_mem_nil, or_false] at hbreak ⊢
  cases hruns with
  | cons hallows _ =>
    unfold Scan.Allows at hallows
    split at hallows
    · rename_i hquoted
      exact ⟨hquoted, by omega⟩
    · obtain ⟨hascii, hvisible⟩ := hallows
      have hspace : isJsonSpace c = true → c.toNat ∈ [0x20, 0x09, 0x0a, 0x0d] := by
        intro hspace
        unfold isJsonSpace at hspace
        rw [decide_eq_true_eq] at hspace
        simp only [List.mem_cons, List.not_mem_nil, or_false] at hspace
        rcases hspace with rfl | rfl | rfl | rfl <;> decide
      rcases hvisible with hvisible | hvisible
      · omega
      · have hmem := hspace hvisible
        simp only [List.mem_cons, List.not_mem_nil, or_false] at hmem
        omega

/-- A text that stops, or goes on with a line feed, inside of a string is rejected. -/
theorem open_text_rejected {tail : List Char} (hquoted : (a.foldl Scan.step .start).quoted = true)
    (htail : tail = [] ∨ ∃ rest, tail = '\n' :: rest) : loads checks (a ++ tail) ≠ .ok value := by
  intro h
  obtain ⟨hruns, hrest⟩ := (loads_runs h).split
  rcases htail with rfl | ⟨rest, rfl⟩
  · have hend := hrest.eq_foldl
    rw [List.foldl_nil] at hend
    rw [hend] at hquoted
    cases hquoted
  · cases hrest with
    | cons hallows _ =>
      unfold Scan.Allows at hallows
      rw [if_pos hquoted] at hallows
      exact absurd hallows (by decide)

theorem start_step_blank : Scan.start.step ' ' = .start := by decide

theorem foldl_removeBlank (text : List Char) :
    (removeBlank text).foldl Scan.step .start = text.foldl Scan.step .start := by
  unfold removeBlank
  split
  · rw [List.foldl_cons, start_step_blank]
  · rfl

/-- A blank in front of a text does not matter. -/
theorem boundedText_removeBlank (h : boundedText json = .ok value) :
    boundedText (removeBlank json) = .ok value := by
  unfold removeBlank
  split
  · rename_i rest
    obtain ⟨hloads, hlimits⟩ := boundedText_eq_ok.mp h
    refine boundedText_eq_ok.mpr ⟨?_, ?_, hlimits.nesting, hlimits.keys, hlimits.constants⟩
    · have hbom : rest.head? ≠ some '\ufeff' := by
        intro hhead
        obtain ⟨rest', rfl⟩ : ∃ rest', rest = '\ufeff' :: rest' := by
          cases rest with
          | nil => cases hhead
          | cons d rest' => exact ⟨rest', by rw [Option.some.inj hhead]⟩
        cases loads_runs hloads with
        | cons _ hruns =>
          rw [start_step_blank] at hruns
          cases hruns with
          | cons hallows _ => exact absurd hallows.1 (by decide)
      have hskip : skipSpace (' ' :: rest) = skipSpace rest := rfl
      have hlength := skipSpace_length_le rest
      have hblank : (' ' :: rest).head? ≠ some '\ufeff' :=
        fun hhead => absurd (Option.some.inj hhead) (by decide)
      unfold loads at hloads ⊢
      rw [if_neg hblank, hskip,
        @parseValue_fuel _ _ _ _ (rest.length + 1) (by rw [List.length_cons]; omega)
          (by omega)] at hloads
      rw [if_neg hbom]
      exact hloads
    · have hsize := hlimits.size
      unfold utf8Length at hsize ⊢
      rw [List.map_cons, List.sum_cons] at hsize
      omega
  · exact h

/-! ### One event -/

theorem unifyNewlines_cons (hc : c ≠ '\r') (rest : List Char) :
    unifyNewlines (c :: rest) = c :: unifyNewlines rest := by
  cases rest with
  | nil => simp [unifyNewlines, hc]
  | cons d rest => simp [unifyNewlines, hc]

theorem unifyNewlines_append {line : List Char} (h : '\r' ∉ line) (rest : List Char) :
    unifyNewlines (line ++ rest) = line ++ unifyNewlines rest := by
  induction line with
  | nil => rfl
  | cons c line ih =>
    rw [List.mem_cons, not_or] at h
    rw [List.cons_append, unifyNewlines_cons (Ne.symm h.1), ih h.2, List.cons_append]

theorem unifyNewlines_ending {ending : LineEnding} {rest : List Char}
    (h : ending = .cr → rest.head? ≠ some '\n') :
    unifyNewlines (ending.chars ++ rest) = '\n' :: unifyNewlines rest := by
  cases ending with
  | lf => exact unifyNewlines_cons (by decide) rest
  | crlf => rfl
  | cr =>
    have hhead := h rfl
    cases rest with
    | nil => rfl
    | cons d rest =>
      have hd : d ≠ '\n' := fun hd => hhead (congrArg some hd)
      show unifyNewlines ('\r' :: d :: rest) = _
      simp [unifyNewlines, hd]

/-- A line with something on it. -/
def IsLine (line : List Char) : Prop := SingleLine line ∧ line ≠ []

theorem IsLine.head?_ne {line : List Char} (h : IsLine line) (rest : List Char) :
    (line ++ rest).head? ≠ some '\n' := by
  obtain ⟨hsingle, hne⟩ := h
  cases line with
  | nil => exact absurd rfl hne
  | cons d line =>
    intro hhead
    exact hsingle.1 (by rw [Option.some.inj hhead]; exact List.mem_cons_self ..)

/-- All line ends become line feeds. -/
theorem unifyNewlines_lines {lines : List (List Char × LineEnding)} {last : LineEnding}
    (hlines : ∀ line ∈ lines, IsLine line.1)
    (hlast : lines.getLast?.map Prod.snd = some .cr → last ≠ .lf) :
    unifyNewlines ((lines.flatMap fun line => line.1 ++ line.2.chars) ++ last.chars) =
      (lines.flatMap fun line => line.1 ++ ['\n']) ++ ['\n'] := by
  induction lines with
  | nil => cases last <;> rfl
  | cons line lines ih =>
    have hline := hlines line (List.mem_cons_self ..)
    have hrest := ih (fun l hl => hlines l (List.mem_cons_of_mem _ hl))
    rw [List.flatMap_cons, List.flatMap_cons, List.append_assoc, List.append_assoc,
      List.append_assoc, List.append_assoc, unifyNewlines_append hline.1.2, unifyNewlines_ending,
      hrest]
    · rfl
    · intro hcr
      refine hlast ?_
      cases lines with
      | nil => cases hcr
      | cons next lines =>
        rw [List.getLast?_cons_cons]
        exact hcr
    · intro hcr
      cases lines with
      | nil =>
        have hne := hlast (congrArg some hcr)
        cases last with
        | lf => exact absurd rfl hne
        | cr => decide
        | crlf => decide
      | cons next lines =>
        rw [List.flatMap_cons, List.append_assoc, List.append_assoc]
        exact (hlines next (List.mem_cons_of_mem _ (List.mem_cons_self ..))).head?_ne _

theorem splitEvents_cons (hc : c ≠ '\n') (rest : List Char) :
    splitEvents (c :: rest) = (splitEvents rest).modifyHead (c :: ·) := by
  cases rest with
  | nil => rfl
  | cons d rest => rw [splitEvents, if_neg fun h => hc h.1]

theorem splitEvents_append {line : List Char} (h : '\n' ∉ line) (rest : List Char) :
    splitEvents (line ++ rest) = (splitEvents rest).modifyHead (line ++ ·) := by
  induction line with
  | nil =>
    show splitEvents rest = (splitEvents rest).modifyHead id
    rw [List.modifyHead_id]
    rfl
  | cons c line ih =>
    rw [List.mem_cons, not_or] at h
    rw [List.cons_append, splitEvents_cons (Ne.symm h.1), ih h.2, List.modifyHead_modifyHead]
    rfl

theorem splitEvents_newline {rest : List Char} (h : rest.head? ≠ some '\n') :
    splitEvents ('\n' :: rest) = (splitEvents rest).modifyHead ('\n' :: ·) := by
  cases rest with
  | nil => rfl
  | cons d rest => rw [splitEvents, if_neg fun hd => h (congrArg some hd.2)]

/-- Lines and a blank line are one event. -/
theorem splitEvents_lines {line : List Char} {lines : List (List Char)} (hline : IsLine line)
    (hlines : ∀ line ∈ lines, IsLine line) :
    splitEvents (((line :: lines).flatMap fun line => line ++ ['\n']) ++ ['\n']) =
      [joinLines (line :: lines), []] := by
  induction lines generalizing line with
  | nil =>
    show splitEvents ((line ++ ['\n'] ++ []) ++ ['\n']) = _
    rw [List.append_nil, List.append_assoc, splitEvents_append hline.1.1]
    show [line ++ [], []] = _
    rw [List.append_nil]
    rfl
  | cons next lines ih =>
    have hnext := hlines next (List.mem_cons_self ..)
    have hrest := ih hnext fun l hl => hlines l (List.mem_cons_of_mem _ hl)
    have hhead : (((next :: lines).flatMap fun line => line ++ ['\n']) ++ ['\n']).head? ≠
        some '\n' := by
      rw [List.flatMap_cons, List.append_assoc, List.append_assoc]
      exact hnext.head?_ne _
    rw [List.flatMap_cons, List.append_assoc, List.append_assoc, splitEvents_append hline.1.1,
      List.singleton_append, splitEvents_newline hhead, hrest]
    rfl

/-! ### The lines of an event -/

theorem splitOnP_joinLines (line : List Char) (lines : List (List Char)) :
    (joinLines (line :: lines)).splitOnP isLineBreak =
      (line :: lines).flatMap fun line => line.splitOnP isLineBreak := by
  induction lines generalizing line with
  | nil => exact (List.append_nil _).symm
  | cons next lines ih =>
    have hjoin : joinLines (line :: next :: lines) = line ++ '\n' :: joinLines (next :: lines) := rfl
    rw [hjoin, List.splitOnP_append_cons _ _ (by decide), ih next, List.flatMap_cons]
    rfl

theorem not_mem_joinLines {lines : List (List Char)} (hc : c ≠ '\n')
    (h : ∀ line ∈ lines, c ∉ line) : c ∉ joinLines lines := by
  induction lines with
  | nil => exact List.not_mem_nil
  | cons line lines ih =>
    have hline := h line (List.mem_cons_self ..)
    have hrest := ih fun l hl => h l (List.mem_cons_of_mem _ hl)
    cases lines with
    | nil => exact hline
    | cons next lines =>
      show c ∉ line ++ '\n' :: joinLines (next :: lines)
      rw [List.mem_append, List.mem_cons]
      rintro (hmem | hmem | hmem)
      · exact hline hmem
      · exact hc hmem
      · exact hrest hmem

theorem addLine_nil (data : List (List Char)) : addLine data [] = .ok data := rfl

/-- The loop may as well see the empty last line. -/
theorem foldlM_splitLines {event : List Char} (h : '\r' ∉ event) (data : List (List Char)) :
    (splitLines event).foldlM addLine data =
      (event.splitOnP isLineBreak).foldlM addLine data := by
  have hunify : unifyNewlines event = event := by
    have happend := unifyNewlines_append h []
    rwa [List.append_nil, unifyNewlines, List.append_nil] at happend
  unfold splitLines
  rw [hunify]
  dsimp only
  split
  · rename_i hlast
    conv_rhs => rw [← List.dropLast_append_getLast? [] hlast, List.foldlM_append]
    cases (event.splitOnP isLineBreak).dropLast.foldlM addLine data <;> rfl
  · rfl

theorem IsField.not_data {line : List Char} (h : IsField line) : ¬"data:".toList <+: line := by
  rintro ⟨rest, rfl⟩
  obtain ⟨start, hstart, hprefix⟩ := h
  simp only [List.mem_cons, List.not_mem_nil, or_false] at hstart
  obtain ⟨rest', hrest⟩ := hprefix
  have hhead := congrArg List.head? hrest
  rcases hstart with rfl | rfl | rfl | rfl <;> exact absurd hhead (by simp)

/-- Lines without data pass, or stop the loop. -/
theorem foldlM_noData {pieces : List (List Char)}
    (h : ∀ piece ∈ pieces, ¬"data:".toList <+: piece) {data data' : List (List Char)} :
    pieces.foldlM addLine data = .ok data' ↔
      data' = data ∧ ∀ piece ∈ pieces, piece = [] ∨ IsField piece := by
  induction pieces with
  | nil =>
    rw [List.foldlM_nil]
    constructor
    · intro heq
      exact ⟨(Except.ok.inj heq).symm, nofun⟩
    · rintro ⟨rfl, -⟩
      rfl
  | cons piece pieces ih =>
    have hpiece := h piece (List.mem_cons_self ..)
    have hrest := ih fun p hp => h p (List.mem_cons_of_mem _ hp)
    rw [List.foldlM_cons, List.forall_mem_cons]
    unfold addLine
    rw [if_neg hpiece]
    split
    · rename_i hskipped
      show pieces.foldlM addLine data = _ ↔ _
      rw [hrest]
      simp [hskipped]
    · rename_i hskipped
      constructor
      · intro herror
        cases herror
      · rintro ⟨-, hfield, -⟩
        exact absurd hfield hskipped

/-- The data only grow. -/
theorem foldlM_addLine_grows {pieces : List (List Char)} {data data' : List (List Char)}
    (h : pieces.foldlM addLine data = .ok data') : ∃ more, data' = data ++ more := by
  induction pieces generalizing data with
  | nil =>
    rw [List.foldlM_nil] at h
    exact ⟨[], by rw [← Except.ok.inj h, List.append_nil]⟩
  | cons piece pieces ih =>
    rw [List.foldlM_cons] at h
    obtain ⟨data₁, hfirst, h⟩ := bind_eq_ok.mp h
    obtain ⟨more, rfl⟩ := ih h
    unfold addLine at hfirst
    split at hfirst
    · rw [← Except.ok.inj hfirst, List.append_assoc]
      exact ⟨_, rfl⟩
    · split at hfirst
      · rw [← Except.ok.inj hfirst]
        exact ⟨more, rfl⟩
      · cases hfirst

theorem eventMessage_nil : eventMessage [] = .ok none := rfl

theorem liftJson_eq_ok {α : Type} {x : Except JsonFailure α} {a : α} :
    liftJson x = .ok a ↔ x = .ok a := by
  cases x with
  | ok b => exact ⟨fun h => congrArg _ (Except.ok.inj h), fun h => congrArg _ (Except.ok.inj h)⟩
  | error e => exact ⟨nofun, nofun⟩

theorem eventMessage_eq_some {event : List Char} :
    eventMessage event = .ok (some value) ↔ ∃ data, (splitLines event).foldlM addLine [] = .ok data ∧
      data ≠ [] ∧ boundedText (joinLines data) = .ok value := by
  unfold eventMessage
  rw [bind_eq_ok]
  constructor
  · rintro ⟨data, hdata, h⟩
    split at h
    · cases h
    · rename_i hne
      obtain ⟨message, hmessage, h⟩ := bind_eq_ok.mp h
      obtain rfl := Option.some.inj (Except.ok.inj h)
      exact ⟨data, hdata, hne, liftJson_eq_ok.mp hmessage⟩
  · rintro ⟨data, hdata, hne, hvalue⟩
    refine ⟨data, hdata, ?_⟩
    rw [if_neg hne, bind_eq_ok]
    exact ⟨value, liftJson_eq_ok.mpr hvalue, rfl⟩

theorem chars_utf8 (text : List Char) :
    (JsonBody.bytes (utf8 (String.ofList text))).chars = some text := by
  have hdecode : String.fromUTF8? ⟨(utf8 (String.ofList text)).toArray⟩ =
      some (String.ofList text) := dif_pos (String.ofList text).isValidUTF8
  show (String.fromUTF8? ⟨(utf8 (String.ofList text)).toArray⟩).map String.toList = _
  rw [hdecode, Option.map_some, String.toList_ofList]

namespace Framing

variable {framing : Framing}

/-- The lines without their ends. -/
def lineTexts (framing : Framing) (json : List Char) : List (List Char) :=
  framing.before.map (fun field => field.1.line) ++
    framing.dataLine json :: framing.after.map fun field => field.1.line

theorem lines_map_fst : (framing.lines json).map Prod.fst = framing.lineTexts json := by
  unfold lines lineTexts
  rw [List.map_append, List.map_cons, List.map_map, List.map_map]
  rfl

theorem lineTexts_ne_nil : framing.lineTexts json ≠ [] :=
  List.append_ne_nil_of_right_ne_nil _ (List.cons_ne_nil _ _)

theorem isLine_field (field : FieldLine) : IsLine field.line := by
  refine ⟨field.single, fun hnil => ?_⟩
  obtain ⟨start, hstart, hprefix⟩ := field.field
  rw [hnil, List.prefix_nil] at hprefix
  simp only [List.mem_cons, List.not_mem_nil, or_false] at hstart
  rcases hstart with rfl | rfl | rfl | rfl <;> cases hprefix

theorem isLine_lineTexts (hjson : SingleLine json) :
    ∀ line ∈ framing.lineTexts json, IsLine line := by
  intro line hline
  unfold lineTexts at hline
  simp only [List.mem_append, List.mem_map, List.mem_cons] at hline
  rcases hline with ⟨field, -, rfl⟩ | rfl | ⟨field, -, rfl⟩
  · exact isLine_field field.1
  · have hdata : ∀ c ∈ ['\n', '\r'], c ∉ json → c ∉ framing.dataLine json := by
      intro c hc hnot hmem
      unfold dataLine at hmem
      simp only [List.mem_cons, List.not_mem_nil, or_false] at hc
      rcases List.mem_append.mp hmem with hmem | hmem
      · rcases hc with rfl | rfl <;> exact absurd hmem (by decide)
      · split at hmem
        · rcases List.mem_cons.mp hmem with rfl | hmem
          · rcases hc with hc | hc <;> exact absurd hc (by decide)
          · exact hnot hmem
        · exact hnot hmem
    exact ⟨⟨hdata _ (by simp) hjson.1, hdata _ (by simp) hjson.2⟩, nofun⟩
  · exact isLine_field field.1

/-- The event is its lines. -/
theorem splitEvents_text (hjson : SingleLine json) :
    splitEvents (unifyNewlines (framing.text json)) =
      [joinLines (framing.lineTexts json), []] := by
  have hlines := @isLine_lineTexts json framing hjson
  have hpairs : ∀ line ∈ framing.lines json, IsLine line.1 := by
    intro line hline
    refine hlines line.1 ?_
    rw [← lines_map_fst]
    exact List.mem_map_of_mem hline
  have hlast : (framing.lines json).getLast?.map Prod.snd = some .cr → framing.last ≠ .lf := by
    intro hcr
    refine framing.separate ?_
    unfold lines at hcr
    rw [List.getLast?_append, List.getLast?_cons, Option.some_or] at hcr
    rw [List.getLast?_cons, List.getLast?_map, ← hcr]
    cases hafter : framing.after.getLast? with
    | none => simp [List.getLast?_map, hafter]
    | some field => simp [List.getLast?_map, hafter]
  unfold text
  rw [unifyNewlines_lines hpairs hlast, ← @List.flatMap_map _ _ _ Prod.fst fun line => line ++ ['\n'],
    lines_map_fst]
  obtain ⟨line, rest, htexts⟩ := List.exists_cons_of_ne_nil (@lineTexts_ne_nil json framing)
  rw [htexts] at hlines ⊢
  exact splitEvents_lines (hlines line (List.mem_cons_self ..))
    fun l hl => hlines l (List.mem_cons_of_mem _ hl)

/-- What is returned for the event: its data, read as JSON. -/
theorem rpcBody_eq_ok {contentType : String} (hjson : SingleLine json)
    (htype : mediaType contentType = "text/event-stream") :
    rpcBody (framing.body json) contentType = .ok value ↔ ∃ data,
      ((framing.lineTexts json).flatMap fun line => line.splitOnP isLineBreak).foldlM addLine [] =
        .ok data ∧ data ≠ [] ∧ boundedText (joinLines data) = .ok value := by
  have hreturn : '\r' ∉ joinLines (framing.lineTexts json) :=
    not_mem_joinLines (by decide) fun line hline => (isLine_lineTexts hjson line hline).1.2
  obtain ⟨line, rest, htexts⟩ := List.exists_cons_of_ne_nil (@lineTexts_ne_nil json framing)
  have hmessage : rpcBody (framing.body json) contentType = .ok value ↔
      eventMessage (joinLines (framing.lineTexts json)) = .ok (some value) := by
    unfold rpcBody body
    rw [if_neg (by rw [htype]; decide), if_neg (by rw [htype]; simp), chars_utf8]
    dsimp only
    rw [splitEvents_text hjson, List.mapM_cons, List.mapM_cons, List.mapM_nil, eventMessage_nil]
    cases hevent : eventMessage (joinLines (framing.lineTexts json)) with
    | error e => exact ⟨nofun, nofun⟩
    | ok message =>
      cases message with
      | none => exact ⟨nofun, nofun⟩
      | some message =>
        show Except.ok message = _ ↔ Except.ok (some message) = _
        simp
  rw [hmessage, eventMessage_eq_some, foldlM_splitLines hreturn, htexts, splitOnP_joinLines]

end Framing

/-! ### Both framings -/

theorem not_data_of_mem {fields : List (FieldLine × LineEnding)} :
    ∀ piece ∈ (fields.map fun field => field.1.line).flatMap fun line => line.splitOnP isLineBreak,
      ¬"data:".toList <+: piece := by
  intro piece hpiece
  obtain ⟨line, hline, hpiece⟩ := List.mem_flatMap.mp hpiece
  obtain ⟨field, -, rfl⟩ := List.mem_map.mp hline
  exact field.1.noData piece hpiece

theorem uncut_iff {fields : List (FieldLine × LineEnding)} :
    (∀ piece ∈ (fields.map fun field => field.1.line).flatMap fun line =>
      line.splitOnP isLineBreak, piece = [] ∨ IsField piece) ↔ ∀ field ∈ fields, field.1.Uncut := by
  constructor
  · intro h field hfield piece hpiece
    exact h piece (List.mem_flatMap.mpr ⟨_, List.mem_map_of_mem hfield, hpiece⟩)
  · intro h piece hpiece
    obtain ⟨line, hline, hpiece⟩ := List.mem_flatMap.mp hpiece
    obtain ⟨field, hfield, rfl⟩ := List.mem_map.mp hline
    exact h field hfield piece hpiece

theorem dataLine_noBreak {framing : Framing} (h : ∀ c ∈ json, isLineBreak c = false) :
    (framing.dataLine json).splitOnP isLineBreak = [framing.dataLine json] := by
  refine List.splitOnP_eq_singleton fun c hc => ?_
  unfold Framing.dataLine at hc
  rcases List.mem_append.mp hc with hc | hc
  · have hall : ("data:".toList.all fun c => !isLineBreak c) = true := by decide
    exact Bool.not_eq_true' _ ▸ List.all_eq_true.mp hall c hc
  · split at hc
    · rcases List.mem_cons.mp hc with rfl | hc
      · decide
      · exact h c hc
    · exact h c hc

/-- What the loop takes off a data line. -/
def Framing.data (framing : Framing) (text : List Char) : List Char :=
  if framing.blank then text else removeBlank text

theorem addLine_data {framing : Framing} (text : List Char) (data : List (List Char)) :
    addLine data (framing.dataLine text) = .ok (data ++ [framing.data text]) := by
  unfold addLine Framing.dataLine Framing.data
  rw [if_pos (List.prefix_append ..)]
  cases framing.blank <;> rfl

theorem boundedText_data {framing : Framing} (h : boundedText json = .ok value) :
    boundedText (framing.data json) = .ok value := by
  unfold Framing.data
  split
  · exact h
  · exact boundedText_removeBlank h

theorem foldl_data {framing : Framing} (text : List Char) :
    (framing.data text).foldl Scan.step .start = text.foldl Scan.step .start := by
  unfold Framing.data
  split
  · rfl
  · exact foldl_removeBlank text

/-- The data line of a text that is cut has the text up to the cut, and the rest as a line
of its own. -/
theorem dataLine_cut {framing : Framing} (ha : ∀ d ∈ a, isLineBreak d = false)
    (hc : isLineBreak c = true) : (framing.dataLine (a ++ c :: b)).splitOnP isLineBreak =
      framing.dataLine a :: b.splitOnP isLineBreak := by
  have hline : framing.dataLine (a ++ c :: b) = framing.dataLine a ++ c :: b := by
    unfold Framing.dataLine
    split
    · rw [← List.cons_append, ← List.append_assoc]
    · rw [← List.append_assoc]
  rw [hline, List.splitOnP_append_cons _ _ hc, dataLine_noBreak ha]
  rfl

theorem joinLines_cons (line : List Char) (lines : List (List Char)) :
    ∃ tail, joinLines (line :: lines) = line ++ tail ∧ (tail = [] ∨ ∃ rest, tail = '\n' :: rest) := by
  cases lines with
  | nil => exact ⟨[], (List.append_nil _).symm, .inl rfl⟩
  | cons next lines => exact ⟨'\n' :: joinLines (next :: lines), rfl, .inr ⟨_, rfl⟩⟩

/-- In an accepted text the line ends are Python's own, inside of strings. -/
theorem exists_cut (h : boundedText json = .ok value) (hsingle : SingleLine json)
    (hc : c ∈ json) (hbreak : isLineBreak c = true) : ∃ a c b, json = a ++ c :: b ∧
      (∀ d ∈ a, isLineBreak d = false) ∧ isLineBreak c = true ∧
      (a.foldl Scan.step .start).quoted = true ∧ c.toNat ∈ [0x85, 0x2028, 0x2029] := by
  have hdrop : json.dropWhile (fun d => !isLineBreak d) ≠ [] := by
    intro hnil
    have hall := List.dropWhile_eq_nil_iff.mp hnil c hc
    rw [hbreak] at hall
    cases hall
  obtain ⟨d, b, hb⟩ := List.exists_cons_of_ne_nil hdrop
  have hjson : json = json.takeWhile (fun d => !isLineBreak d) ++ d :: b := by
    rw [← hb, List.takeWhile_append_dropWhile]
  have hd : isLineBreak d = true := by
    have hhead := List.head_dropWhile_not (fun d => !isLineBreak d) hdrop
    simp only [hb, List.head_cons, Bool.not_eq_false'] at hhead
    exact hhead
  have hne : d ≠ '\n' := by
    rintro rfl
    exact hsingle.1 (hjson ▸ List.mem_append_right _ (List.mem_cons_self ..))
  have hloads := (boundedText_eq_ok.mp h).1
  rw [hjson] at hloads
  refine ⟨_, d, b, hjson, fun e he => ?_, hd, quoted_of_isLineBreak hloads hd hne⟩
  have hnot := @List.mem_takeWhile_imp _ (fun d => !isLineBreak d) _ _ he
  rwa [Bool.not_eq_true'] at hnot

/-- An event that carries an accepted text is read like the text itself iff no character
of the text ends a line for Python alone, and no field line goes on behind such a
character with something else. -/
theorem rpcBody_framing_iff (encoded : List UInt8) (json : List Char) (value : PyValue)
    (framing : Framing) (plainType streamType : String)
    (hplain : mediaType plainType = "application/json")
    (hstream : mediaType streamType = "text/event-stream")
    (hchars : (JsonBody.bytes encoded).chars = some json) (hsingle : SingleLine json)
    (haccepted : boundedJson (.bytes encoded) = .ok value) :
    rpcBody encoded plainType = .ok value ∧
      (rpcBody (framing.body json) streamType = .ok value ↔
        ¬HasOwnLineBreak json ∧ ∀ field ∈ framing.before ++ framing.after, field.1.Uncut) := by
  have hjson : boundedText json = .ok value := by
    unfold boundedJson at haccepted
    rwa [hchars] at haccepted
  refine ⟨?_, ?_⟩
  · unfold rpcBody
    rw [if_pos hplain]
    exact liftJson_eq_ok.mpr haccepted
  rw [Framing.rpcBody_eq_ok hsingle hstream]
  unfold Framing.lineTexts
  rw [List.flatMap_append, List.flatMap_cons]
  have hclean : ¬HasOwnLineBreak json ↔ ∀ c ∈ json, isLineBreak c = false := by
    constructor
    · intro hno c hc
      by_contra hbreak
      obtain ⟨a, d, b, heq, -, -, -, hown⟩ :=
        exists_cut hjson hsingle hc ((Bool.not_eq_false _).mp hbreak)
      exact hno ⟨d, heq ▸ List.mem_append_right _ (List.mem_cons_self ..), hown⟩
    · rintro hno ⟨c, hc, hown⟩
      have hfalse := hno c hc
      unfold isLineBreak at hfalse
      rw [decide_eq_false_iff_not] at hfalse
      refine hfalse ?_
      simp only [List.mem_cons, List.not_mem_nil, or_false] at hown ⊢
      omega
  rw [hclean]
  constructor
  · rintro ⟨data, hfold, hne, hvalue⟩
    rw [List.foldlM_append] at hfold
    obtain ⟨data₁, hskipped, hfold⟩ := bind_eq_ok.mp hfold
    obtain ⟨rfl, hbefore⟩ := (foldlM_noData not_data_of_mem).mp hskipped
    -- a cut text leaves a string open at the end of its first line
    have hnone : ∀ c ∈ json, isLineBreak c = false := by
      intro c hc
      by_contra hbreak
      obtain ⟨a, d, b, rfl, ha, hd, hquoted, -⟩ :=
        exists_cut hjson hsingle hc ((Bool.not_eq_false _).mp hbreak)
      rw [dataLine_cut ha hd, List.cons_append, List.foldlM_cons, addLine_data] at hfold
      obtain ⟨more, rfl⟩ := foldlM_addLine_grows hfold
      obtain ⟨tail, hjoin, htail⟩ := joinLines_cons (framing.data a) more
      rw [List.nil_append, List.singleton_append, hjoin] at hvalue
      rw [← @foldl_data framing] at hquoted
      exact open_text_rejected hquoted htail (boundedText_eq_ok.mp hvalue).1
    rw [dataLine_noBreak hnone, List.singleton_append, List.foldlM_cons, addLine_data] at hfold
    obtain ⟨-, hafter⟩ := (foldlM_noData not_data_of_mem).mp hfold
    refine ⟨hnone, fun field hfield => ?_⟩
    rcases List.mem_append.mp hfield with hfield | hfield
    · exact uncut_iff.mp hbefore field hfield
    · exact uncut_iff.mp hafter field hfield
  · rintro ⟨hnone, huncut⟩
    have hbefore := uncut_iff.mpr fun field hfield => huncut field (List.mem_append_left _ hfield)
    have hafter := uncut_iff.mpr fun field hfield => huncut field (List.mem_append_right _ hfield)
    refine ⟨[framing.data json], ?_, List.cons_ne_nil _ _, boundedText_data hjson⟩
    rw [List.foldlM_append, bind_eq_ok]
    refine ⟨[], (foldlM_noData not_data_of_mem).mpr ⟨rfl, hbefore⟩, ?_⟩
    rw [dataLine_noBreak hnone, List.singleton_append, List.foldlM_cons, addLine_data]
    exact (foldlM_noData not_data_of_mem).mpr ⟨rfl, hafter⟩

/-- A field line without further line ends is not cut. -/
theorem FieldLine.uncut_of_noBreak {field : FieldLine}
    (h : (field.line.all fun c => !isLineBreak c) = true) : field.Uncut := by
  have hone : field.line.splitOnP isLineBreak = [field.line] := by
    refine List.splitOnP_eq_singleton fun c hc => ?_
    simpa using List.all_eq_true.mp h c hc
  intro piece hpiece
  rw [hone, List.mem_singleton] at hpiece
  rw [hpiece]
  exact .inr field.field

/-- `data: ` and a blank line. -/
def plainFraming : Framing := ⟨[], true, .lf, [], .lf, nofun⟩

/-- A string of one character. -/
def sampleString (c : Char) : List Char := ['"', c, '"']

theorem sampleString_accepted {c : Char} (h : c ∈ ['a', '\u2028']) :
    boundedJson (.bytes (utf8 (String.ofList (sampleString c)))) = .ok (.text [c.toNat]) := by
  unfold boundedJson
  rw [chars_utf8]
  simp only [List.mem_cons, List.not_mem_nil, or_false] at h
  show boundedText (sampleString c) = _
  refine boundedText_eq_ok.mpr ⟨?_, ?_, Nat.zero_le _, fun _ hwithin => (nomatch hwithin),
    fun _ hwithin => (nomatch hwithin)⟩
  · rcases h with rfl | rfl <;> rfl
  · rcases h with rfl | rfl <;> decide

/-- A document among a comment, an id and a retry line that end like on the web. -/
def sampleDocument : List Char := ['[', '1', ',', ' ', '"', 'a', '"', ']']

/-- The event with the document is read like the document itself. -/
theorem rpcBody_framing_iff_sample : ∃ framing : Framing, ∃ value,
    framing.text sampleDocument =
      ": ping\r\nid: 7\r\ndata: [1, \"a\"]\r\nretry: 10\r\n\r\n".toList ∧
    rpcBody (utf8 (String.ofList sampleDocument)) "application/json" = .ok value ∧
    rpcBody (framing.body sampleDocument) "text/event-stream; charset=utf-8" = .ok value := by
  have haccepted : (boundedText sampleDocument).toOption.isSome = true := by decide +kernel
  obtain ⟨value, hvalue⟩ := Option.isSome_iff_exists.mp haccepted
  have hok : ∀ {answer : Except JsonFailure PyValue}, answer.toOption = some value →
      answer = .ok value := by
    intro answer h
    cases answer with
    | error failure => cases h
    | ok accepted => exact congrArg Except.ok (Option.some.inj h)
  have hjson : boundedJson (.bytes (utf8 (String.ofList sampleDocument))) = .ok value := by
    unfold boundedJson
    rw [chars_utf8]
    exact hok hvalue
  let ping : FieldLine := ⟨": ping".toList, ⟨by decide, by decide⟩, by decide, by decide +kernel⟩
  let numbered : FieldLine := ⟨"id: 7".toList, ⟨by decide, by decide⟩, by decide, by decide +kernel⟩
  let retry : FieldLine :=
    ⟨"retry: 10".toList, ⟨by decide, by decide⟩, by decide, by decide +kernel⟩
  obtain ⟨hplain, hstream⟩ := rpcBody_framing_iff (utf8 (String.ofList sampleDocument))
    sampleDocument value ⟨[(ping, .crlf), (numbered, .crlf)], true, .crlf, [(retry, .crlf)], .crlf, nofun⟩
    "application/json" "text/event-stream; charset=utf-8" (by decide +kernel) (by decide +kernel)
    (chars_utf8 _) ⟨by decide, by decide⟩ hjson
  refine ⟨_, value, by decide +kernel, hplain, hstream.mpr ⟨?_, ?_⟩⟩
  · rintro ⟨c, hc, hown⟩
    have hnone : (sampleDocument.all fun c => !decide (c.toNat ∈ [0x85, 0x2028, 0x2029])) = true := by
      decide
    have hfalse := List.all_eq_true.mp hnone c hc
    rw [decide_eq_true hown] at hfalse
    cases hfalse
  · intro field hfield
    have hline : field.1.line ∈ [": ping".toList, "id: 7".toList, "retry: 10".toList] :=
      List.mem_map_of_mem (f := fun f : FieldLine × LineEnding => f.1.line) hfield
    have hplain : ([": ping".toList, "id: 7".toList, "retry: 10".toList].all fun line =>
        line.all fun c => !isLineBreak c) = true := by
      decide +kernel
    exact FieldLine.uncut_of_noBreak (List.all_eq_true.mp hplain _ hline)

/-- A string with a line separator is read from plain JSON only. -/
theorem line_separator_unreadable :
    boundedJson (.bytes (utf8 (String.ofList (sampleString '\u2028')))) = .ok (.text [0x2028]) ∧
      rpcBody (utf8 (String.ofList (sampleString '\u2028'))) "application/json" =
        .ok (.text [0x2028]) ∧
      rpcBody (plainFraming.body (sampleString '\u2028')) "text/event-stream" =
        .error .malformedStream := by
  have haccepted := sampleString_accepted (List.mem_cons_of_mem 'a' (List.mem_singleton_self '\u2028'))
  refine ⟨haccepted, ?_, ?_⟩
  · unfold rpcBody
    rw [if_pos (by decide +kernel), haccepted]
    rfl
  · unfold rpcBody Framing.body
    rw [if_neg (by decide +kernel), if_neg (by decide +kernel), chars_utf8]
    rfl

end SupplyResponse
