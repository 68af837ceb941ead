/-
Submissions of the Graph mail client (`integrations/graph_mail/client.py`).

* `request` — `_request` for a call without a JSON result: one HTTP exchange
  under a time limit, the checks on status and size, the handlers around them;
* `sendMessage`, `sendOutcome` — the sendMail request, and what the email
  service records about it;
* `Classified` — a rejection is a definite failure, and nothing else is;
* `sendMessage_classified_iff` — the answers that are classified so, and of which
  the email service records the right outcome.

A transport is represented by what it does: it fails before a response, or it
responds and fails after some chunks of the body or not at all.
-/
import SupplyResponse.Services.ReviewedEmail

namespace SupplyResponse

/-! ### Answers -/

/-- What `httpx` raises during an exchange, by the handler that catches it. -/
inductive TransportFailure
  | timeout
  | transport
  | decoding
  deriving DecidableEq, Repr

/-- A response, with the decoded chunks of its body and the failure after them. -/
structure GraphResponse where
  status : ℕ
  contentLength : Option String := none
  chunks : List (List UInt8) := []
  failure : Option TransportFailure := none

inductive GraphAnswer
  | failed (failure : TransportFailure)
  | responded (response : GraphResponse)

/-- The characters of `str.isdigit`, and the digits that `int` knows. -/
structure DigitTable where
  isDigit : Char → Bool
  decimal : Char → Option ℕ

/-! ### Failures -/

def safeCodes : List String :=
  ["graph_authentication_failed", "graph_capability_failed", "graph_create_failed",
    "graph_get_failed", "graph_message_mismatch", "graph_response_invalid", "graph_send_failed",
    "graph_send_uncertain"]

/-- The exceptions that leave a request: the two error classes of the client,
`httpx.DecodingError`, which it raises again, and the `ValueError` of `int`. -/
inductive RequestFailure
  | graphMailError (code : String)
  | submissionUncertain (code : String)
  | decodingError
  | valueError
  deriving DecidableEq

/-- The code that `GraphMailError.__init__` keeps. -/
def safeCode (code : String) : String :=
  if code ∈ safeCodes then code else "graph_response_invalid"

/-- `GraphMailSubmissionUncertain("graph_send_uncertain")`. -/
def graphSendUncertain : RequestFailure := .submissionUncertain (safeCode "graph_send_uncertain")

/-- The arguments of `_request` that decide how an answer is treated. -/
structure RequestOptions where
  failureCode : String
  expectedStatuses : List ℕ
  uncertainAfterSubmit : Bool

/-- An error with the given code, unless the request may have been carried out. -/
def RequestOptions.failure (options : RequestOptions) (code : String) : RequestFailure :=
  if options.uncertainAfterSubmit then graphSendUncertain else .graphMailError (safeCode code)

/-- The handlers of `_request`. -/
def RequestOptions.handle (options : RequestOptions) : TransportFailure → RequestFailure
  | .timeout => options.failure options.failureCode
  | .transport => options.failure options.failureCode
  | .decoding => .decodingError

/-! ### The exchange -/

def maxGraphResponseBytes : ℕ := 1024 * 1024

/-- `response.is_redirect`. -/
def GraphResponse.isRedirect (response : GraphResponse) : Bool :=
  300 ≤ response.status ∧ response.status ≤ 399

/-- `text.isdigit()`. -/
def DigitTable.isDigits (digits : DigitTable) (text : String) : Bool :=
  text.toList ≠ [] ∧ text.toList.all digits.isDigit = true

/-- `int(text)` for a text of digits; Python converts up to 4300 of them. -/
def DigitTable.int (digits : DigitTable) (text : String) : Option ℕ :=
  if text.toList.length ≤ 4300 then
    (text.toList.mapM digits.decimal).map fun values =>
      values.foldl (fun n digit => 10 * n + digit) 0
  else none

/-- The announced length of the body, where the header is one. -/
def announcedLength (digits : DigitTable) (contentLength : Option String) :
    Except RequestFailure (Option ℕ) :=
  match contentLength.filter digits.isDigits with
  | none => .ok none
  | some text => (digits.int text).elim (.error .valueError) fun length => .ok (some length)

/-- The loop over the chunks. -/
def readChunks (options : RequestOptions) (failure : Option TransportFailure) (body : List UInt8) :
    List (List UInt8) → Except RequestFailure (List UInt8)
  | [] => failure.elim (.ok body) fun failure => .error (options.handle failure)
  | chunk :: rest =>
    if maxGraphResponseBytes < body.length + chunk.length then
      .error (options.failure "graph_response_invalid")
    else readChunks options failure (body ++ chunk) rest

/-- The checks of a response, and its body. -/
def readResponse (digits : DigitTable) (options : RequestOptions) (response : GraphResponse) :
    Except RequestFailure (List UInt8) := do
  if response.isRedirect = true ∨ response.status ∉ options.expectedStatuses then
    if options.uncertainAfterSubmit = true ∧ 500 ≤ response.status then
      .error graphSendUncertain
    else .error (.graphMailError (safeCode options.failureCode))
  else do
    let announced ← announcedLength digits response.contentLength
    if ∃ length ∈ announced, maxGraphResponseBytes < length then
      .error (options.failure "graph_response_invalid")
    else readChunks options response.failure [] response.chunks

/-- `_request` with `expect_json=False`, after the headers. -/
def request (digits : DigitTable) (options : RequestOptions) (answer : GraphAnswer) :
    Except RequestFailure Unit := do
  let body ← match answer with
    | .failed failure => .error (options.handle failure)
    | .responded response => readResponse digits options response
  if body ≠ [] then .error graphSendUncertain else .ok ()

/-- The arguments of both submissions. -/
def sendOptions : RequestOptions where
  failureCode := "graph_send_failed"
  expectedStatuses := [202]
  uncertainAfterSubmit := true

/-- `send_message`, from the request on. -/
def sendMessage (digits : DigitTable) (answer : GraphAnswer) : Except RequestFailure Unit :=
  request digits sendOptions answer

/-- The outcome that `ReviewedEmailService.send` records; another exception leaves it. -/
def sendOutcome : Except RequestFailure Unit → Option SendOutcome
  | .ok () => some .accepted
  | .error (.submissionUncertain code) => some (.uncertain code)
  | .error (.graphMailError code) => some (.failed code)
  | .error _ => none

/-! ### The classification -/

/-- The server has answered that it rejects the message. -/
def GraphAnswer.Rejects : GraphAnswer → Prop
  | .failed _ => False
  | .responded response => 300 ≤ response.status ∧ response.status < 500

/-- A rejection is recorded as a failure; everything else as accepted or uncertain. -/
def Classified (answer : GraphAnswer) (result : Except RequestFailure Unit) : Prop :=
  (answer.Rejects → ∃ code, result = .error (.graphMailError code)) ∧
    (¬answer.Rejects → result = .ok () ∨ ∃ code, result = .error (.submissionUncertain code))

/-- The same of what the email service records; `none` leaves the email submitting. -/
def Recorded (answer : GraphAnswer) (outcome : Option SendOutcome) : Prop :=
  (answer.Rejects → ∃ code, outcome = some (.failed code)) ∧
    (¬answer.Rejects → outcome = some .accepted ∨ ∃ code, outcome = some (.uncertain code))

/-- The header with the length of the body can be read. -/
def HeaderReadable (digits : DigitTable) (contentLength : Option String) : Prop :=
  ∀ text ∈ contentLength, digits.isDigits text = true → (digits.int text).isSome = true

/-- The header announces more than is read. -/
def AnnouncesTooMuch (digits : DigitTable) (contentLength : Option String) : Prop :=
  ∃ text ∈ contentLength, digits.isDigits text = true ∧
    ∃ length ∈ digits.int text, maxGraphResponseBytes < length

/-- The answers that are classified: no decoding fails within the limits, no length
cannot be read, and a success is a 202. -/
def GraphAnswer.Classifiable (digits : DigitTable) : GraphAnswer → Prop
  | .failed failure => failure ≠ .decoding
  | .responded response => 300 ≤ response.status ∨
    response.status = 202 ∧ HeaderReadable digits response.contentLength ∧
      (response.failure = some .decoding → AnnouncesTooMuch digits response.contentLength ∨
        maxGraphResponseBytes < response.chunks.flatten.length)

section Outcomes

variable {answer : GraphAnswer}

theorem classified_ok : Classified answer (.ok ()) ↔ ¬answer.Rejects := by
  simp [Classified]

theorem classified_uncertain {code : String} :
    Classified answer (.error (.submissionUncertain code)) ↔ ¬answer.Rejects := by
  simp [Classified]

theorem classified_graphMailError {code : String} :
    Classified answer (.error (.graphMailError code)) ↔ answer.Rejects := by
  simp [Classified]

theorem not_classified_decodingError : ¬Classified answer (.error .decodingError) := by
  unfold Classified
  by_cases h : answer.Rejects <;> simp [h]

theorem not_classified_valueError : ¬Classified answer (.error .valueError) := by
  unfold Classified
  by_cases h : answer.Rejects <;> simp [h]

/-- What the email service records is right exactly when the result is. -/
theorem recorded_iff_classified {result : Except RequestFailure Unit} :
    Recorded answer (sendOutcome result) ↔ Classified answer result := by
  unfold Recorded Classified
  rcases result with (code | code | _ | _) | _ <;> simp [sendOutcome]

end Outcomes

/-! ### The response -/

theorem announcedLength_eq (digits : DigitTable) (contentLength : Option String)
    (h : HeaderReadable digits contentLength) :
    ∃ announced, announcedLength digits contentLength = .ok announced ∧
      ((∃ length ∈ announced, maxGraphResponseBytes < length) ↔
        AnnouncesTooMuch digits contentLength) := by
  unfold announcedLength AnnouncesTooMuch
  cases contentLength with
  | none => exact ⟨none, rfl, by simp⟩
  | some text =>
    by_cases hdigits : digits.isDigits text = true
    · obtain ⟨length, hlength⟩ := Option.isSome_iff_exists.mp (h text rfl hdigits)
      refine ⟨some length, ?_, ?_⟩
      · simp [Option.filter_some, hdigits, hlength]
      · simp [hdigits, hlength]
    · exact ⟨none, by simp [Option.filter_some, hdigits], by simp [hdigits]⟩

theorem announcedLength_error {digits : DigitTable} {contentLength : Option String}
    (h : ¬HeaderReadable digits contentLength) :
    announcedLength digits contentLength = .error .valueError := by
  unfold HeaderReadable at h
  push Not at h
  obtain ⟨text, rfl, hdigits, hnone⟩ := h
  have hint : digits.int text = none := by simpa using hnone
  simp [announcedLength, Option.filter_some, hdigits, hint]

/-- The loop ends at the limit, or with the body, or with the failure after it. -/
theorem readChunks_eq (options : RequestOptions) (failure : Option TransportFailure)
    (chunks : List (List UInt8)) (body : List UInt8) (hbody : body.length ≤ maxGraphResponseBytes) :
    readChunks options failure body chunks =
      if maxGraphResponseBytes < (body ++ chunks.flatten).length then
        .error (options.failure "graph_response_invalid")
      else failure.elim (.ok (body ++ chunks.flatten)) fun failure =>
        .error (options.handle failure) := by
  induction chunks generalizing body with
  | nil =>
    rw [readChunks, List.flatten_nil, List.append_nil, if_neg (not_lt.mpr hbody)]
  | cons chunk rest ih =>
    rw [readChunks]
    split
    · next hover =>
      rw [if_pos]
      rw [List.flatten_cons, List.length_append, List.length_append]
      omega
    · next hfits =>
      rw [ih (body ++ chunk) (by rw [List.length_append]; omega), List.flatten_cons,
        List.append_assoc]

/-- `send_message`, on a response that is not a 202. -/
theorem sendMessage_of_status_ne {digits : DigitTable} {response : GraphResponse}
    (h : response.status ≠ 202) :
    sendMessage digits (.responded response) =
      .error (if 500 ≤ response.status then graphSendUncertain
        else .graphMailError (safeCode "graph_send_failed")) := by
  have hstatus : response.isRedirect = true ∨ response.status ∉ sendOptions.expectedStatuses :=
    .inr (by simpa [sendOptions] using h)
  simp only [sendMessage, request, readResponse, if_pos hstatus]
  by_cases h500 : 500 ≤ response.status
  · rw [if_pos ⟨rfl, h500⟩, if_pos h500]
    rfl
  · rw [if_neg fun hboth => h500 hboth.2, if_neg h500]
    rfl

/-- `send_message`, on a 202: the announced length, the loop, and the body, in this order. -/
theorem sendMessage_of_accepted {digits : DigitTable} {response : GraphResponse}
    (h : response.status = 202) :
    sendMessage digits (.responded response) =
      (announcedLength digits response.contentLength).bind fun announced =>
        if ∃ length ∈ announced, maxGraphResponseBytes < length then .error graphSendUncertain
        else if maxGraphResponseBytes < response.chunks.flatten.length then .error graphSendUncertain
        else response.failure.elim
          (if response.chunks.flatten ≠ [] then .error graphSendUncertain else .ok ())
          fun failure => .error (sendOptions.handle failure) := by
  have hstatus : ¬(response.isRedirect = true ∨ response.status ∉ [202]) := by
    simp [GraphResponse.isRedirect, h]
  simp only [sendMessage, request, readResponse, sendOptions, if_neg hstatus]
  rcases announcedLength digits response.contentLength with e | announced
  · rfl
  · show ((if _ then _ else readChunks _ _ _ _ : Except RequestFailure (List UInt8)).bind _) = _
    rw [readChunks_eq _ _ _ _ (Nat.zero_le _), List.nil_append]
    show _ = if _ then _ else _
    split
    · rfl
    · split
      · rfl
      · rcases response.failure with _ | failure <;> rfl

/-- A response that is not a 202 is classified exactly if it is no success. -/
theorem classified_of_status_ne {digits : DigitTable} {response : GraphResponse}
    (h : response.status ≠ 202) :
    Classified (.responded response) (sendMessage digits (.responded response)) ↔
      300 ≤ response.status := by
  rw [sendMessage_of_status_ne h]
  by_cases h500 : 500 ≤ response.status
  · rw [if_pos h500]
    refine classified_uncertain.trans ⟨fun _ => by omega, fun _ hrejects => ?_⟩
    have hbound : response.status < 500 := hrejects.2
    omega
  · rw [if_neg h500]
    refine classified_graphMailError.trans ⟨And.left, fun h300 => ⟨h300, ?_⟩⟩
    omega

/-- A 202 is classified exactly if its header can be read, and no decoding fails within the
limits. -/
theorem classified_of_accepted {digits : DigitTable} {response : GraphResponse}
    (h : response.status = 202) :
    Classified (.responded response) (sendMessage digits (.responded response)) ↔
      HeaderReadable digits response.contentLength ∧
        (response.failure = some .decoding → AnnouncesTooMuch digits response.contentLength ∨
          maxGraphResponseBytes < response.chunks.flatten.length) := by
  have hnot : ¬(GraphAnswer.responded response).Rejects := by
    intro hrejects
    have hlow : 300 ≤ response.status := hrejects.1
    omega
  rw [sendMessage_of_accepted h]
  by_cases hheader : HeaderReadable digits response.contentLength
  · obtain ⟨announced, hannounced, hmuch⟩ := announcedLength_eq digits _ hheader
    rw [hannounced]
    show Classified _ (if _ then _ else _) ↔ _
    by_cases htoo : AnnouncesTooMuch digits response.contentLength
    · rw [if_pos (hmuch.mpr htoo)]
      exact iff_of_true (classified_uncertain.mpr hnot) ⟨hheader, fun _ => .inl htoo⟩
    · rw [if_neg (mt hmuch.mp htoo)]
      by_cases hover : maxGraphResponseBytes < response.chunks.flatten.length
      · rw [if_pos hover]
        exact iff_of_true (classified_uncertain.mpr hnot) ⟨hheader, fun _ => .inr hover⟩
      · rw [if_neg hover]
        -- the body was read to its end, or to the failure behind it
        rcases hfailure : response.failure with _ | failure
        · refine iff_of_true ?_ ⟨hheader, fun hnone => by cases hnone⟩
          show Classified _ (if _ then _ else _)
          split
          · exact classified_uncertain.mpr hnot
          · exact classified_ok.mpr hnot
        · cases failure with
          | timeout =>
            exact iff_of_true (classified_uncertain.mpr hnot) ⟨hheader, fun hsome => by cases hsome⟩
          | transport =>
            exact iff_of_true (classified_uncertain.mpr hnot) ⟨hheader, fun hsome => by cases hsome⟩
          | decoding =>
            exact iff_of_false not_classified_decodingError fun hall =>
              (hall.2 rfl).elim htoo hover
  · rw [announcedLength_error hheader]
    exact iff_of_false not_classified_valueError fun hall => hheader hall.1

/-- The classes of the answers are right exactly for the classifiable ones, and so is what
the email service records. -/
theorem sendMessage_classified_iff (digits : DigitTable) (answer : GraphAnswer) :
    (Classified answer (sendMessage digits answer) ↔ answer.Classifiable digits) ∧
      (Recorded answer (sendOutcome (sendMessage digits answer)) ↔
        answer.Classifiable digits) := by
  rw [recorded_iff_classified, and_self]
  rcases answer with failure | response
  · have hnot : ¬(GraphAnswer.failed failure).Rejects := id
    cases failure with
    | timeout =>
      exact iff_of_true (classified_uncertain.mpr hnot)
        (show TransportFailure.timeout ≠ .decoding by decide)
    | transport =>
      exact iff_of_true (classified_uncertain.mpr hnot)
        (show TransportFailure.transport ≠ .decoding by decide)
    | decoding => exact iff_of_false not_classified_decodingError fun hne => hne rfl
  · by_cases h : response.status = 202
    · refine (classified_of_accepted h).trans ⟨fun hall => .inr ⟨h, hall⟩, fun hall => ?_⟩
      rcases hall with hlow | hall
      · omega
      · exact hall.2
    · refine (classified_of_status_ne h).trans ⟨.inl, fun hall => ?_⟩
      rcases hall with hlow | hall
      · exact hlow
      · exact absurd hall.1 h

/-! ### Unclassified answers -/

/-- The ASCII digits. -/
def asciiDigits : DigitTable where
  isDigit := Char.isDigit
  decimal c := if c.isDigit then some (c.toNat - '0'.toNat) else none

/-- A 200 without a body is recorded as a failure, and a 202 whose body cannot be decoded
leaves the email submitting. -/
theorem possible_acceptance_failed :
    sendOutcome (sendMessage asciiDigits (.responded { status := 200 })) =
        some (.failed "graph_send_failed") ∧
      ¬Classified (.responded { status := 200 })
        (sendMessage asciiDigits (.responded { status := 200 })) ∧
      sendOutcome (sendMessage asciiDigits
        (.responded { status := 202, failure := some .decoding })) = none := by
  refine ⟨?_, fun h => ?_, ?_⟩
  · rw [sendMessage_of_status_ne (by decide)]
    simp [sendOutcome, safeCode, safeCodes]
  · have hlow : 300 ≤ (200 : ℕ) := (classified_of_status_ne (by decide)).mp h
    omega
  · rw [sendMessage_of_accepted rfl]
    rfl

end SupplyResponse
